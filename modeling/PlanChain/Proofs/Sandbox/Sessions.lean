import PlanChain.Proofs.Execution.Journal
import PlanChain.Plan.Wire

set_option autoImplicit false

namespace PlanChain

variable {σ : Type}

def liveSessions (options : Options) (steps : List Step) : List String :=
  if options.mode = .live then steps.filterMap (·.action.sessionId?) else []

namespace Environment

-- The steps that a walk reaches, as long as cancellation does not refuse them.
def attempted (env : Environment σ) (options : Options) (state : State) (steps : List Step) (run : Underway σ) :
    List Step :=
  match steps with
  | [] => []
  | step :: rest =>
    if env.cancelled run.line.world then []
    else
      step :: match env.step options state step run with
        | (.next next, later) => env.attempted options next rest later
        | _ => []

def reached (env : Environment σ) (raw : Json) (options : Options) (line : Timeline σ) : List Step :=
  match prepare raw options with
  | .error _ => []
  | .ok prepared =>
    if env.lacksProvider options prepared.plan then []
    else env.attempted options .empty prepared.plan.steps ⟨line, ∅⟩

end Environment

def Deed.Plain (deed : Deed) : Prop := deed.created? = none ∧ (deed.ofProvider = true → deed.isWork = true)

section Deeds

variable {cancelled : σ → Bool}

theorem apply_plain (state : State) (step : Step) : (Deed.apply state step).Plain := ⟨rfl, nofun⟩

theorem applied_plain (result : Applied) : (Deed.applied result).Plain := ⟨rfl, nofun⟩

theorem cancels_plain {moments : List Deed} (cancels : ∀ deed ∈ moments, deed = .cancel) :
    ∀ deed ∈ moments, deed.Plain := by
  intro deed among
  rw [cancels deed among]
  exact ⟨rfl, nofun⟩

theorem plain_creates_none {deeds : List Deed} (plain : ∀ deed ∈ deeds, deed.Plain) :
    deeds.filterMap Deed.created? = [] :=
  List.filterMap_eq_nil_iff.mpr fun deed among => (plain deed among).1

@[simp] theorem live_sessions_nil (options : Options) : liveSessions options [] = [] := by
  simp [liveSessions]

theorem live_sessions_append (options : Options) (steps others : List Step) :
    liveSessions options (steps ++ others) = liveSessions options steps ++ liveSessions options others := by
  unfold liveSessions
  split
  · exact List.filterMap_append
  · rfl

theorem created_of_provider (deeds : List Deed) :
    (deeds.filter Deed.ofProvider).filterMap Deed.created? = deeds.filterMap Deed.created? := by
  rw [List.filterMap_filter]
  congr 1
  funext deed
  cases deed <;> rfl

theorem beforehand_silent (isOver : Bool) : (if isOver then [Deed.cancel] else []).filter Deed.ofProvider = [] := by
  cases isOver <;> rfl

end Deeds

-- From one table of sessions to another, by some deeds: each new session was created once, they are those of some ids,
-- and nothing was closed or shut down.
structure Opens (before after : Table Unit) (deeds : List Deed) (ids : List String) : Prop where
  created : after.keys.Perm (deeds.filterMap Deed.created? ++ before.keys)
  opened : ∀ id, id ∈ after.keys ↔ id ∈ before.keys ∨ id ∈ ids
  working : ∀ deed ∈ deeds, deed.ofProvider = true → deed.isWork = true

theorem plain_opens (opened : Table Unit) {deeds : List Deed} (plain : ∀ deed ∈ deeds, deed.Plain) :
    Opens opened opened deeds [] where
  created := by rw [plain_creates_none plain, List.nil_append]
  opened := by simp
  working deed among := (plain deed among).2

theorem Opens.trans {before middle after : Table Unit} {deeds more : List Deed} {ids others : List String}
    (first : Opens before middle deeds ids) (second : Opens middle after more others) :
    Opens before after (deeds ++ more) (ids ++ others) where
  created := by
    refine second.created.trans ?_
    rw [List.filterMap_append]
    refine (first.created.append_left _).trans ?_
    rw [← List.append_assoc]
    exact List.perm_append_comm.append_right _
  opened id := by rw [second.opened, first.opened, List.mem_append, or_assoc]
  working deed among := by
    rcases List.mem_append.mp among with inFirst | inSecond
    · exact first.working deed inFirst
    · exact second.working deed inSecond

namespace Environment

variable {env : Environment σ} {options : Options} {state : State} {step : Step} {run later : Underway σ}
  {deeds : List Deed}

theorem asks_plain {provider : Provider σ} {kind : StepKind} {sessionId : String} {call : SandboxCall}
    {line after : Timeline σ} {answer : Except StepError SandboxReply}
    (asks : env.Asks provider kind sessionId call line answer deeds after) : ∀ deed ∈ deeds, deed.Plain := by
  cases asks with
  | refused isOver => exact nofun
  | cut pending begun rang _ going called rung isCut =>
      simp only [List.forall_mem_cons, List.forall_mem_append]
      exact ⟨⟨rfl, fun _ => rfl⟩, cancels_plain (moment_cancels _ _), cancels_plain (rings_cancels rung)⟩
  | expired pending begun rang _ going called late rung uncut =>
      simp only [List.forall_mem_cons, List.forall_mem_append]
      exact ⟨⟨rfl, fun _ => rfl⟩, cancels_plain (moment_cancels _ _), cancels_plain (rings_cancels rung)⟩
  | answered pending begun rang middle outcome world going called rung uncut finished =>
      simp only [List.forall_mem_cons, List.forall_mem_append]
      exact ⟨⟨rfl, fun _ => rfl⟩, cancels_plain (moment_cancels _ _), cancels_plain (rings_cancels rung),
        ⟨rfl, fun _ => rfl⟩, cancels_plain (moment_cancels _ _)⟩

theorem ensure_opens (env : Environment σ) (provider : Provider σ) (traceId : Option String) (sessionId : String)
    (run : Underway σ) :
    Opens run.opened (ensure provider traceId sessionId run).opened (env.creation provider traceId sessionId run)
      [sessionId] := by
  unfold ensure creation
  cases present : run.opened.contains sessionId with
  | true =>
      refine ⟨.refl _, fun id => ⟨Or.inl, ?_⟩, nofun⟩
      rintro (isOpened | isSession)
      · exact isOpened
      · rw [List.mem_singleton.mp isSession]
        exact (Table.mem_keys_iff _ _).mpr present
  | false =>
      have more := Table.keys_insert run.opened sessionId () present
      have silent : (Deed.moment env.cancelled run.line.world
          (provider.create sessionId traceId run.line.world)).filterMap Deed.created? = [] :=
        cancels_filter_map Deed.created? (moment_cancels _ _) rfl
      refine ⟨?_, fun id => ?_, ?_⟩
      · simpa [Deed.created?, silent] using more
      · simpa [or_comm] using more.mem_iff
      · simp only [Bool.false_eq_true, if_false, List.forall_mem_cons]
        exact ⟨fun _ => rfl, fun deed among => (cancels_plain (moment_cancels _ _) deed among).2⟩

theorem acts_opens (going : env.cancelled run.line.world = false) {provider : Provider σ}
    (provided : env.provider = some provider) {result : Applied}
    (acts : env.Acts options state step run result deeds later) :
    Opens run.opened later.opened deeds (liveSessions options [step]) := by
  cases acts with
  | refused isOver =>
      rw [going] at isOver
      cases isOver
  | aside _ after going outside applied =>
      have none : liveSessions options [step] = [] := by
        unfold liveSessions
        split
        · rename_i mode
          have notSandbox := outside mode (by rw [provided]; rfl)
          cases isAction : step.action <;> simp_all [Action.isSandbox, Action.sessionId?]
        · rfl
      rw [none]
      refine plain_opens _ ?_
      simp only [List.forall_mem_cons, List.forall_mem_append]
      exact ⟨apply_plain state step, cancels_plain (moment_cancels _ _), applied_plain result, List.forall_mem_nil _⟩
  | inSession other sessionId action answer asked after going mode isProvider isAction asks =>
      have one : liveSessions options [step] = [sessionId] := by
        simp [liveSessions, mode, isAction, Action.sessionId?]
      rw [one]
      exact (ensure_opens env other options.traceId sessionId run).trans (plain_opens _ (asks_plain asks))

theorem attempted_refused (isOver : env.cancelled run.line.world = true) (steps : List Step) :
    env.attempted options state steps run = [] := by
  cases steps with
  | nil => rfl
  | cons step rest => simp [attempted, isOver]

theorem attempted_going (going : env.cancelled run.line.world = false) (rest : List Step) :
    env.attempted options state (step :: rest) run =
      [step] ++ match env.step options state step run with
        | (.next next, later) => env.attempted options next rest later
        | _ => [] := by
  simp [attempted, going]

-- By induction on the walk: the sessions opened at its end are those that it created, and those of the steps reached.
theorem walks_opens {provider : Provider σ} (provided : env.provider = some provider) {index : Nat}
    {steps : List Step} {progress : Progress} (walks : env.Walks options index state steps run progress deeds later) :
    Opens run.opened later.opened deeds (liveSessions options (env.attempted options state steps run)) := by
  induction walks with
  | finished index chain state run =>
      rw [attempted, live_sessions_nil]
      exact plain_opens _ nofun
  | crashed index state step rest run later deeds stepped acts =>
      cases going : env.cancelled run.line.world with
      | true => simp [Environment.step, going] at stepped
      | false =>
          rw [attempted_going going, stepped]
          exact acts_opens going provided acts
  | halted index state step rest run later reason deeds stepped acts =>
      cases going : env.cancelled run.line.world with
      | true =>
          obtain ⟨rfl, rfl⟩ := acts_refused going acts
          rw [attempted_refused going, live_sessions_nil]
          exact plain_opens _ nofun
      | false =>
          rw [attempted_going going, stepped]
          exact acts_opens going provided acts
  | moved index state next step rest run middle later progress deeds more stepped acts others ih =>
      cases going : env.cancelled run.line.world with
      | true => simp [Environment.step, going] at stepped
      | false =>
          rw [attempted_going going, stepped, live_sessions_append]
          exact (acts_opens going provided acts).trans ih

end Environment

-- Every run with a provider that does not crash shuts the provider down at its end, after it has closed each session
-- that it created. It creates one for each session id among the steps that it reaches live.
theorem every_session_closed_once (env : Environment σ) (provider : Provider σ)
    (provided : env.provider = some provider) (raw : Json) (options : Options) (line : Timeline σ)
    (returned : (env.execute raw options line).outcome ≠ .crashed) :
    ∃ journal during opened,
      env.journalled.execute raw options (line.journalled env.cancelled) =
        (env.execute raw options line).withJournal env.cancelled journal ∧
      journal.filter Deed.ofProvider = during ++ (opened.map .close ++ [.shutdown]) ∧
      (∀ deed ∈ during, deed.isWork = true) ∧ opened.Nodup ∧ (during.filterMap Deed.created?).Perm opened ∧
      ∀ id, id ∈ opened ↔ id ∈ liveSessions options (env.reached raw options line) := by
  obtain ⟨deeds, same, executes⟩ := env.execute_journalled
    (if env.cancelled line.world then [.cancel] else []) raw options line
  have farewell : ∀ opened, env.farewell opened = opened.map .close ++ [.shutdown] := by
    intro opened
    simp [Environment.farewell, provided]
  generalize (env.execute raw options line).outcome = outcome at executes returned
  cases executes with
  | rejected halt deeds refused last =>
      refine ⟨_, [], [], same, ?_, List.forall_mem_nil _, .nil, .nil, ?_⟩
      · rw [List.filter_append, beforehand_silent, spaced_filter last (env.farewell_of_provider []), farewell]
      · simp [Environment.reached, refused]
  | unprovided prepared halt ready lacks => simp [Environment.lacksProvider, provided] at lacks
  | crashed prepared run deeds ready isProvided walks => exact absurd rfl returned
  | ended prepared progress run deeds last ready isProvided walks closes =>
      have opens := Environment.walks_opens provided walks
      have unopened : (∅ : Table Unit).keys = [] := rfl
      refine ⟨_, deeds.filter Deed.ofProvider, run.opened.keys, same, ?_, ?_, run.opened.names_distinct, ?_, ?_⟩
      · rw [List.filter_append, beforehand_silent, List.nil_append, List.filter_append,
          spaced_filter closes (env.farewell_of_provider run.opened.keys), farewell]
      · intro deed among
        obtain ⟨isDeed, isDone⟩ := List.mem_filter.mp among
        exact opens.working deed isDeed isDone
      · rw [created_of_provider]
        simpa [unopened] using opens.created.symm
      · intro id
        rw [opens.opened]
        simp [Environment.reached, ready, isProvided, unopened]

def stuck : Environment Bool where
  apply := simulation
  provider := some {
    create := fun _ _ cancelled => cancelled
    call := fun _ _ cancelled => (⟨some 1, fun cancelled => (.ok .done, cancelled)⟩, cancelled)
    close := fun _ cancelled => (⟨none, fun cancelled => ((), cancelled)⟩, cancelled)
    shutdown := fun cancelled => (⟨none, fun cancelled => ((), cancelled)⟩, cancelled) }
  timeout := 5
  cancelled cancelled := cancelled

def threeSessions : Plan := ⟨"visit", 1, [⟨"first", .sandbox "b" (.click "#go")⟩,
  ⟨"second", .sandbox "a" (.click "#go")⟩, ⟨"third", .sandbox "c" (.click "#go")⟩]⟩

theorem stuck_sessions_closed :
    let raw := threeSessions.toJson
    let options : Options := { mode := .live }
    let line : Timeline Bool := ⟨0, [⟨2, fun _ => true⟩], false⟩
    (stuck.execute raw options line).outcome = .halted ⟨StepError.cancelled.toFailure, some 1⟩ ∧
      liveSessions options (stuck.reached raw options line) = ["b", "a"] ∧
      ∃ journal during opened,
        stuck.journalled.execute raw options (line.journalled stuck.cancelled) =
          (stuck.execute raw options line).withJournal stuck.cancelled journal ∧
        journal.filter Deed.ofProvider = during ++ (opened.map .close ++ [.shutdown]) ∧
        (∀ deed ∈ during, deed.isWork = true) ∧ opened.Nodup ∧ (during.filterMap Deed.created?).Perm opened ∧
        ∀ id, id ∈ opened ↔ id ∈ liveSessions options (stuck.reached raw options line) := by
  intro raw options line
  have halted : (stuck.execute raw options line).outcome = .halted ⟨StepError.cancelled.toFailure, some 1⟩ := rfl
  exact ⟨halted, rfl, every_session_closed_once stuck _ rfl raw options line (by rw [halted]; nofun)⟩

end PlanChain
