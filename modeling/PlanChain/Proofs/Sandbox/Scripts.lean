import PlanChain.Proofs.Execution.Counters
import PlanChain.Proofs.Execution.Integrity
import PlanChain.Sandbox.Scripted

set_option autoImplicit false

namespace PlanChain

namespace Step

def callIn? (sessionId : String) (step : Step) : Option SandboxCall :=
  match step.action with
  | .sandbox id action => if id = sessionId then some action.call else none
  | _ => none

end Step

def sessionCalls (sessionId : String) (steps : List Step) : List SandboxCall :=
  steps.filterMap (Step.callIn? sessionId)

-- An entry that expects a call and succeeds in time. No sleep takes more than the longest.
def ScriptedCall.Answers (limit : Nat) (expected : ScriptedCall) (call : SandboxCall) : Prop :=
  expected.call = call ∧ (∃ text, expected.reply = .ok text) ∧ (expected.delay ≤ limit ∨ longestSleep ≤ limit)

def Follows (limit : Nat) (calls : List SandboxCall) (script : List ScriptedCall) : Prop :=
  ∀ (place : Nat) (call : SandboxCall), calls[place]? = some call →
    ∃ expected : ScriptedCall, script[place]? = some expected ∧ expected.Answers limit call

namespace ScriptedSandbox

def script (sandbox : ScriptedSandbox) (sessionId : String) : List ScriptedCall :=
  (sandbox.scripts.get? sessionId).getD []

-- The entry that a step at an index has for its own in the script of its session.
def entry? (sandbox : ScriptedSandbox) (steps : List Step) (index : Nat) (sessionId : String) : Option ScriptedCall :=
  (sandbox.script sessionId)[(sessionCalls sessionId (steps.take index)).length]?

def Answered (sandbox : ScriptedSandbox) (limit : Nat) (steps : List Step) (index : Nat) : Prop :=
  ∀ step sessionId action, steps[index]? = some step → step.action = .sandbox sessionId action →
    ∃ expected : ScriptedCall, sandbox.entry? steps index sessionId = some expected ∧
      expected.Answers limit action.call

def Makes (sandbox : ScriptedSandbox) (steps : List Step) (index : Nat) (step : Step) (before after : State) : Prop :=
  match step.action with
  | .sandbox sessionId action => ∃ expected text, sandbox.entry? steps index sessionId = some expected ∧
      expected.reply = .ok text ∧ after = before.afterSandbox sessionId action (Text.nfc (text.getD ""))
  | _ => before.simulate step = .ok after

end ScriptedSandbox

section Lists

variable {α β : Type}

theorem filter_map_get?_iff (keep : α → Option β) (list : List α) (place : Nat) (value : β) :
    (list.filterMap keep)[place]? = some value ↔
      ∃ index item, list[index]? = some item ∧ keep item = some value ∧
        ((list.take index).filterMap keep).length = place := by
  induction list generalizing place with
  | nil => simp
  | cons head rest ih =>
      constructor
      · intro found
        cases kept : keep head with
        | none =>
            rw [List.filterMap_cons_none kept] at found
            obtain ⟨index, item, isItem, isValue, count⟩ := (ih place).mp found
            exact ⟨index + 1, item, isItem, isValue, by simpa [kept] using count⟩
        | some first =>
            rw [List.filterMap_cons_some kept] at found
            cases place with
            | zero =>
                cases found
                exact ⟨0, head, rfl, kept, rfl⟩
            | succ place =>
                obtain ⟨index, item, isItem, isValue, count⟩ := (ih place).mp found
                exact ⟨index + 1, item, isItem, isValue, by simpa [kept] using count⟩
      · intro ⟨index, item, isItem, isValue, count⟩
        cases index with
        | zero =>
            cases isItem
            rw [List.filterMap_cons_some isValue]
            cases count
            rfl
        | succ index =>
            have later : (rest.filterMap keep)[((rest.take index).filterMap keep).length]? = some value :=
              (ih _).mpr ⟨index, item, isItem, isValue, rfl⟩
            cases kept : keep head with
            | none =>
                rw [List.filterMap_cons_none kept]
                simpa [kept, ← count] using later
            | some first =>
                rw [List.filterMap_cons_some kept]
                simpa [kept, ← count] using later

end Lists

section Scripts

theorem call_in_iff (sessionId : String) (step : Step) (call : SandboxCall) :
    step.callIn? sessionId = some call ↔
      ∃ action, step.action = .sandbox sessionId action ∧ action.call = call := by
  rw [Step.callIn?]
  cases step.action with
  | sandbox id action =>
      by_cases own : id = sessionId
      · simp [own]
      · simp [own]
  | _ => simp

theorem all_answered_iff (sandbox : ScriptedSandbox) (limit : Nat) (steps : List Step) :
    (∀ index, sandbox.Answered limit steps index) ↔
      ∀ sessionId, Follows limit (sessionCalls sessionId steps) (sandbox.script sessionId) := by
  constructor
  · intro answered sessionId place call called
    obtain ⟨index, step, found, calls, count⟩ := (filter_map_get?_iff _ steps place call).mp called
    obtain ⟨action, isAction, rfl⟩ := (call_in_iff sessionId step call).mp calls
    obtain ⟨expected, own, answers⟩ := answered index step sessionId action found isAction
    refine ⟨expected, ?_, answers⟩
    rw [← count]
    exact own
  · intro follows index step sessionId action found isAction
    have calls := (call_in_iff sessionId step action.call).mpr ⟨action, isAction, rfl⟩
    exact follows sessionId _ action.call ((filter_map_get?_iff _ steps _ _).mpr ⟨index, step, found, calls, rfl⟩)

variable {steps : List Step} {index : Nat} {step : Step}

theorem session_calls_next (sessionId : String) (found : steps[index]? = some step) :
    sessionCalls sessionId (steps.take (index + 1)) =
      sessionCalls sessionId (steps.take index) ++ (step.callIn? sessionId).toList := by
  rw [List.take_add_one, found, sessionCalls, List.filterMap_append, sessionCalls]
  cases called : step.callIn? sessionId <;> simp [called]

theorem session_calls_same (sessionId : String) (found : steps[index]? = some step)
    (noCall : step.callIn? sessionId = none) :
    sessionCalls sessionId (steps.take (index + 1)) = sessionCalls sessionId (steps.take index) := by
  rw [session_calls_next sessionId found, noCall, Option.toList_none, List.append_nil]

theorem core_not_in_session (core : step.action.isSandbox = false) (sessionId : String) (action : SandboxAction) :
    step.action ≠ .sandbox sessionId action := by
  intro isAction
  rw [isAction] at core
  cases core

end Scripts

def ScriptedSandbox.environment (limit : UInt64) : Environment ScriptedSandbox :=
  ⟨simulation, some provider, limit, fun _ => false⟩

def ScriptedSandbox.left (sandbox : ScriptedSandbox) (steps : List Step) (sessionId : String) : ScriptedSession :=
  ⟨(sandbox.script sessionId).drop (sessionCalls sessionId steps).length, false⟩

def ScriptedSandbox.withScript (sandbox : ScriptedSandbox) (sessionId : String) (script : List ScriptedCall) :
    ScriptedSandbox :=
  { sandbox with sessions := sandbox.sessions.insert sessionId ⟨script, false⟩ }

-- A run of which some steps are done. Every session created has what they left of its script, and they made
-- no call to the others.
structure Playing (sandbox : ScriptedSandbox) (steps : List Step) (run : Underway ScriptedSandbox) : Prop where
  scripts : run.line.world.scripts = sandbox.scripts
  quiet : run.line.alarms = []
  opened : ∀ id, run.opened.contains id = true → run.line.world.session id = sandbox.left steps id
  unopened : ∀ id, run.opened.contains id = false → sessionCalls id steps = []

section Playing

variable {sandbox : ScriptedSandbox}

theorem with_script_session (world : ScriptedSandbox) (name other : String) (script : List ScriptedCall) :
    (world.withScript name script).session other = if other = name then ⟨script, false⟩ else world.session other := by
  rw [ScriptedSandbox.session, ScriptedSandbox.withScript, Table.get?_insert, ScriptedSandbox.session]
  split <;> rfl

theorem created_session (world : ScriptedSandbox) (name other : String) :
    (world.create name name).session other =
      if other = name then ⟨world.script name, false⟩ else world.session other := by
  rw [ScriptedSandbox.session, ScriptedSandbox.create, Table.get?_insert, ScriptedSandbox.session]
  split <;> rfl

theorem ensured_playing (steps : List Step) (run : Underway ScriptedSandbox) (playing : Playing sandbox steps run)
    (traceId : Option String) (sessionId : String) :
    Playing sandbox steps (Environment.ensure ScriptedSandbox.provider traceId sessionId run) ∧
      (Environment.ensure ScriptedSandbox.provider traceId sessionId run).opened.contains sessionId = true := by
  rw [Environment.ensure]
  cases present : run.opened.contains sessionId with
  | true => exact ⟨playing, present⟩
  | false =>
      rw [if_neg (by simp)]
      refine ⟨⟨playing.scripts, playing.quiet, fun id isOpened => ?_, fun id isUnopened => ?_⟩, ?_⟩
      · refine (created_session run.line.world sessionId id).trans ?_
        by_cases own : id = sessionId
        · rw [if_pos own, own, ScriptedSandbox.left, playing.unopened sessionId present, ScriptedSandbox.script,
            playing.scripts]
          rfl
        · rw [if_neg own]
          exact playing.opened id (by simpa [own] using isOpened)
      · simp only [Table.contains_insert, Bool.or_eq_false_iff] at isUnopened
        exact playing.unopened id isUnopened.2
      · simp

theorem quiet_wait {σ : Type} (line : Timeline σ) (quiet : line.alarms = []) (milliseconds : Nat) :
    ∃ now, line.wait (fun _ => false) milliseconds = (false, ⟨now, [], line.world⟩) := by
  obtain ⟨now, alarms, world⟩ := line
  cases quiet
  rw [Timeline.wait]
  split
  · exact ⟨now, rfl⟩
  · exact ⟨now + milliseconds, rfl⟩

theorem quiet_await {σ α : Type} (line : Timeline σ) (quiet : line.alarms = []) (limit delay : Nat)
    (finish : σ → α × σ) :
    ∃ now, line.await (fun _ => false) limit ⟨some delay, finish⟩ =
      if limit < delay then (.expired, ⟨now, [], line.world⟩)
      else (.answered (finish line.world).1, ⟨now, [], (finish line.world).2⟩) := by
  rw [Timeline.await]
  by_cases late : limit < delay
  · obtain ⟨now, waited⟩ := quiet_wait line quiet limit
    exact ⟨now, by simp [late, Timeline.expire, waited]⟩
  · obtain ⟨now, waited⟩ := quiet_wait line quiet delay
    exact ⟨now, by simp [late, waited]⟩

theorem sleep_in_time (delay limit : Nat) : ¬ limit < sleepLength delay ↔ delay ≤ limit ∨ longestSleep ≤ limit := by
  rw [sleepLength]
  omega

theorem left_next (steps : List Step) (index : Nat) (step : Step) (action : SandboxAction) (sessionId : String)
    (found : steps[index]? = some step) (isAction : step.action = .sandbox sessionId action) :
    (sandbox.left (steps.take (index + 1)) sessionId).script =
      (sandbox.left (steps.take index) sessionId).script.tail := by
  have called := (call_in_iff sessionId step action.call).mpr ⟨action, isAction, rfl⟩
  rw [ScriptedSandbox.left, ScriptedSandbox.left, session_calls_next sessionId found, called, Option.toList_some,
    List.length_append, List.length_singleton, List.tail_drop]

theorem ask_called (limit : UInt64) (kind : StepKind) (sessionId : String) (call : SandboxCall)
    (line : Timeline ScriptedSandbox) (quiet : line.alarms = []) (delay : Nat) (outcome : SandboxOutcome)
    (after : ScriptedSandbox) (called : line.world.call sessionId call = (delay, outcome, after)) :
    ∃ now, (ScriptedSandbox.environment limit).ask ScriptedSandbox.provider kind sessionId call line =
      (if limit.toNat < delay then .error (.timeout kind limit)
        else outcome.mapError fun error => .sandbox kind error.code error.message, ⟨now, [], after⟩) := by
  obtain ⟨now, awaited⟩ :=
    quiet_await { line with world := after } quiet limit.toNat delay fun world => (outcome, world)
  refine ⟨now, ?_⟩
  rw [Environment.ask]
  simp only [ScriptedSandbox.environment, Bool.false_eq_true, if_false, ScriptedSandbox.provider, called, awaited]
  by_cases late : limit.toNat < delay
  · simp [late]
  · rw [if_neg late, if_neg late]
    cases outcome <;> rfl

theorem exhausted_call (world : ScriptedSandbox) (sessionId : String) (call : SandboxCall)
    (isSession : world.session sessionId = ⟨[], false⟩) :
    world.call sessionId call =
      (0, .error (.invalid ("script exhausted: unexpected " ++ call.name)), world.withScript sessionId []) := by
  simp [ScriptedSandbox.call, isSession, ScriptedSession.call, ScriptedSandbox.withScript]

theorem play_call (world : ScriptedSandbox) (sessionId : String) (call : SandboxCall) (expected : ScriptedCall)
    (rest : List ScriptedCall) (isSession : world.session sessionId = ⟨expected :: rest, false⟩) :
    world.call sessionId call =
      (sleepLength expected.delay, expected.outcome call, world.withScript sessionId rest) := by
  simp [ScriptedSandbox.call, isSession, ScriptedSession.call, ScriptedSandbox.withScript]

theorem ask_scripted (limit : UInt64) (kind : StepKind) (sessionId : String) (call : SandboxCall)
    (line : Timeline ScriptedSandbox) (quiet : line.alarms = []) (script : List ScriptedCall)
    (isScript : line.world.session sessionId = ⟨script, false⟩) :
    (∃ expected text now, script.head? = some expected ∧ expected.Answers limit.toNat call ∧
        expected.reply = .ok text ∧
        (ScriptedSandbox.environment limit).ask ScriptedSandbox.provider kind sessionId call line =
          (.ok (call.reply text), ⟨now, [], line.world.withScript sessionId script.tail⟩)) ∨
      (∀ expected, script.head? = some expected → ¬ expected.Answers limit.toNat call) ∧
        ∃ reason later, (ScriptedSandbox.environment limit).ask ScriptedSandbox.provider kind sessionId call line =
          (.error reason, later) := by
  cases script with
  | nil =>
      obtain ⟨now, asked⟩ := ask_called limit kind sessionId call line quiet _ _ _
        (exhausted_call line.world sessionId call isScript)
      exact Or.inr ⟨nofun, _, _, asked⟩
  | cons expected rest =>
      obtain ⟨now, asked⟩ := ask_called limit kind sessionId call line quiet _ _ _
        (play_call line.world sessionId call expected rest isScript)
      by_cases late : limit.toNat < sleepLength expected.delay
      · rw [if_pos late] at asked
        refine Or.inr ⟨fun found isFound answers => ?_, _, _, asked⟩
        cases isFound
        exact (sleep_in_time _ _).mpr answers.2.2 late
      · rw [if_neg late] at asked
        by_cases same : expected.call = call
        · rw [ScriptedCall.outcome, if_pos same] at asked
          cases replied : expected.reply with
          | ok text =>
              rw [replied] at asked
              have answers : expected.Answers limit.toNat call := ⟨same, ⟨text, replied⟩, (sleep_in_time _ _).mp late⟩
              exact Or.inl ⟨expected, text, now, rfl, answers, replied, asked⟩
          | error error =>
              rw [replied] at asked
              refine Or.inr ⟨fun found isFound answers => ?_, _, _, asked⟩
              cases isFound
              obtain ⟨text, isOk⟩ := answers.2.1
              rw [replied] at isOk
              cases isOk
        · rw [ScriptedCall.outcome, if_neg same] at asked
          refine Or.inr ⟨fun found isFound answers => ?_, _, _, asked⟩
          cases isFound
          exact same answers.1

theorem reply_kept (state : State) (sessionId : String) (action : SandboxAction) (text : Option String) :
    state.afterSandbox sessionId action (Text.nfc (action.call.reply text).text) =
      state.afterSandbox sessionId action (Text.nfc (text.getD "")) := by
  cases action <;> rfl

def Plays (sandbox : ScriptedSandbox) (limit : UInt64) (options : Options) (steps : List Step) (index : Nat)
    (step : Step) (state : State) (run : Underway ScriptedSandbox) : Prop :=
  (sandbox.Answered limit.toNat steps index ∧ ∃ next later,
      (ScriptedSandbox.environment limit).step options state step run = (.next next, later) ∧
      sandbox.Makes steps index step state next ∧ Playing sandbox (steps.take (index + 1)) later ∧
      Counted (steps.take (index + 1)) next) ∨
    (¬ sandbox.Answered limit.toNat steps index ∧ ∃ reason later,
      (ScriptedSandbox.environment limit).step options state step run = (.error reason, later))

variable {limit : UInt64} {options : Options} {steps : List Step} {index : Nat} {step : Step} {state : State}
  {run : Underway ScriptedSandbox}

theorem aside_step (core : step.action.isSandbox = false) :
    (ScriptedSandbox.environment limit).step options state step run = (.ofExcept (state.simulate step), run) := by
  obtain ⟨id, action⟩ := step
  obtain ⟨mode, maxSteps, traceId⟩ := options
  cases action with
  | sandbox sessionId action => cases core
  | _ => cases mode <;> rfl

theorem core_step_playing (found : steps[index]? = some step) (core : step.action.isSandbox = false)
    (playing : Playing sandbox (steps.take index) run) : Playing sandbox (steps.take (index + 1)) run := by
  have same : ∀ id, sessionCalls id (steps.take (index + 1)) = sessionCalls id (steps.take index) := by
    intro id
    refine session_calls_same id found ?_
    rw [Step.callIn?]
    cases isAction : step.action with
    | sandbox sessionId action => exact (core_not_in_session core sessionId action isAction).elim
    | _ => rfl
  constructor
  case scripts => exact playing.scripts
  case quiet => exact playing.quiet
  case opened =>
    intro id isOpened
    rw [ScriptedSandbox.left, same id]
    exact playing.opened id isOpened
  case unopened =>
    intro id isUnopened
    rw [same id]
    exact playing.unopened id isUnopened

theorem core_step_plays
    (fit : sandbox.Answered limit.toNat steps index → CountersFit (steps.take (index + 1)))
    (found : steps[index]? = some step) (core : step.action.isSandbox = false)
    (playing : Playing sandbox (steps.take index) run) (counted : Counted (steps.take index) state) :
    Plays sandbox limit options steps index step state run := by
  have answered : sandbox.Answered limit.toNat steps index := by
    intro other sessionId action isOther isAction
    cases found.symm.trans isOther
    exact (core_not_in_session core sessionId action isAction).elim
  obtain ⟨next, simulated, stillCounted⟩ := core_step_counted found core (fit answered) state counted
  refine Or.inl ⟨answered, next, run, ?_, ?_, core_step_playing found core playing, stillCounted⟩
  · rw [aside_step core, simulated]
    rfl
  · unfold ScriptedSandbox.Makes
    cases isAction : step.action with
    | sandbox sessionId action => exact (core_not_in_session core sessionId action isAction).elim
    | _ => exact simulated

-- The session that answered has one entry less before it, and the others have what they had.
theorem session_step_playing (found : steps[index]? = some step) (sessionId : String) (action : SandboxAction)
    (isAction : step.action = .sandbox sessionId action) (playing : Playing sandbox (steps.take index) run)
    (isOpened : run.opened.contains sessionId = true) (now : Nat) :
    Playing sandbox (steps.take (index + 1)) { run with line := ⟨now, [],
      run.line.world.withScript sessionId (sandbox.left (steps.take index) sessionId).script.tail⟩ } := by
  have same : ∀ id, id ≠ sessionId → sessionCalls id (steps.take (index + 1)) = sessionCalls id (steps.take index) := by
    intro id other
    exact session_calls_same id found (by simp [Step.callIn?, isAction, Ne.symm other])
  constructor
  case scripts => exact playing.scripts
  case quiet => rfl
  case opened =>
    intro id isPlayed
    rw [with_script_session]
    by_cases own : id = sessionId
    · rw [if_pos own, own, ← left_next steps index step action sessionId found isAction]
      rfl
    · rw [if_neg own, ScriptedSandbox.left, same id own]
      exact playing.opened id isPlayed
  case unopened =>
    intro id isUnopened
    have other : id ≠ sessionId := by
      intro own
      rw [own, isOpened] at isUnopened
      cases isUnopened
    rw [same id other]
    exact playing.unopened id isUnopened

theorem session_step (state : State) (mode : options.mode = .live) (sessionId : String) (action : SandboxAction)
    (isAction : step.action = .sandbox sessionId action) (answer : Except StepError SandboxReply)
    (later : Timeline ScriptedSandbox)
    (asked : (ScriptedSandbox.environment limit).ask ScriptedSandbox.provider action.kind sessionId action.call
      (Environment.ensure ScriptedSandbox.provider options.traceId sessionId run).line = (answer, later)) :
    (ScriptedSandbox.environment limit).step options state step run =
      (.ofExcept (answer.map fun reply => state.afterSandbox sessionId action (Text.nfc reply.text)),
        { Environment.ensure ScriptedSandbox.provider options.traceId sessionId run with line := later }) := by
  have applied : (ScriptedSandbox.environment limit).step options state step run =
      (ScriptedSandbox.environment limit).applyInSession ScriptedSandbox.provider options.traceId state sessionId
        action run := by
    rw [Environment.step, mode, isAction]
    rfl
  rw [applied, Environment.applyInSession, asked]

theorem session_step_answered (state : State) (mode : options.mode = .live) (sessionId : String)
    (action : SandboxAction) (isAction : step.action = .sandbox sessionId action) (text : Option String)
    (later : Timeline ScriptedSandbox)
    (asked : (ScriptedSandbox.environment limit).ask ScriptedSandbox.provider action.kind sessionId action.call
      (Environment.ensure ScriptedSandbox.provider options.traceId sessionId run).line =
        (.ok (action.call.reply text), later)) :
    (ScriptedSandbox.environment limit).step options state step run =
      (.next (state.afterSandbox sessionId action (Text.nfc (text.getD ""))),
        { Environment.ensure ScriptedSandbox.provider options.traceId sessionId run with line := later }) := by
  rw [session_step state mode sessionId action isAction _ later asked, ← reply_kept]
  rfl

theorem session_step_plays (mode : options.mode = .live) (found : steps[index]? = some step) (sessionId : String)
    (action : SandboxAction) (isAction : step.action = .sandbox sessionId action)
    (playing : Playing sandbox (steps.take index) run) (counted : Counted (steps.take index) state) :
    Plays sandbox limit options steps index step state run := by
  obtain ⟨ensured, isOpened⟩ := ensured_playing _ run playing options.traceId sessionId
  have own : (sandbox.left (steps.take index) sessionId).script.head? = sandbox.entry? steps index sessionId :=
    List.head?_drop
  rcases ask_scripted limit action.kind sessionId action.call _ ensured.quiet
    (sandbox.left (steps.take index) sessionId).script (ensured.opened sessionId isOpened) with
      ⟨expected, text, now, isOwn, answers, replied, asked⟩ | ⟨refused, reason, later, asked⟩
  · rw [own] at isOwn
    refine Or.inl ⟨fun other id otherAction isOther isOtherAction => ?_, _, _,
      session_step_answered state mode sessionId action isAction text _ asked, ?_,
      session_step_playing found sessionId action isAction ensured isOpened now,
      counted_same found (fun key => by simp [Step.incrementOf?, isAction]) state _ counted rfl⟩
    · cases found.symm.trans isOther
      cases isAction.symm.trans isOtherAction
      exact ⟨expected, isOwn, answers⟩
    · simp only [ScriptedSandbox.Makes, isAction]
      exact ⟨expected, text, isOwn, replied, rfl⟩
  · refine Or.inr ⟨fun answered => ?_, reason, _, session_step state mode sessionId action isAction _ _ asked⟩
    obtain ⟨expected, isOwn, answers⟩ := answered step sessionId action found isAction
    exact refused expected (own.trans isOwn) answers

theorem step_plays (mode : options.mode = .live)
    (fit : sandbox.Answered limit.toNat steps index → CountersFit (steps.take (index + 1)))
    (found : steps[index]? = some step) (playing : Playing sandbox (steps.take index) run)
    (counted : Counted (steps.take index) state) : Plays sandbox limit options steps index step state run := by
  cases isAction : step.action with
  | sandbox sessionId action => exact session_step_plays mode found sessionId action isAction playing counted
  | _ => exact core_step_plays fit found (by rw [isAction]; rfl) playing counted

end Playing

def ScriptedSandbox.KeepsCounts (sandbox : ScriptedSandbox) (limit : Nat) (steps : List Step) : Prop :=
  ∀ count, (∀ place, place < count → sandbox.Answered limit steps place) → CountersFit (steps.take count)

def ScriptedSandbox.Ends (sandbox : ScriptedSandbox) (limit : Nat) (steps : List Step) (progress : Progress) : Prop :=
  ((∃ chain state, progress = .finished chain state) ∧ ∀ place, sandbox.Answered limit steps place) ∨
    ∃ place failure, progress = .halted ⟨failure, some place⟩ ∧ place < steps.length ∧
      ¬ sandbox.Answered limit steps place ∧ ∀ earlier, earlier < place → sandbox.Answered limit steps earlier

section Walks

variable {sandbox : ScriptedSandbox} {limit : UInt64} {options : Options} {steps : List Step} {index : Nat}
  {step : Step} {state : State} {run : Underway ScriptedSandbox}

theorem answered_next (limit : Nat) (before : ∀ place, place < index → sandbox.Answered limit steps place)
    (answered : sandbox.Answered limit steps index) (place : Nat) (inNext : place < index + 1) :
    sandbox.Answered limit steps place := by
  rcases Nat.lt_succ_iff_lt_or_eq.mp inNext with earlier | rfl
  · exact before place earlier
  · exact answered

-- By induction on the steps to come, those before being answered.
theorem walk_ends (mode : options.mode = .live) (fit : sandbox.KeepsCounts limit.toNat steps) (reporter : Reporter)
    (rest : List Step) (index : Nat) (toCome : steps.drop index = rest) (chain : Trace.Chain) (state : State)
    (run : Underway ScriptedSandbox) (playing : Playing sandbox (steps.take index) run)
    (counted : Counted (steps.take index) state)
    (before : ∀ place, place < index → sandbox.Answered limit.toNat steps place) :
    sandbox.Ends limit.toNat steps
      (walk ((ScriptedSandbox.environment limit).step options) reporter index chain state rest run).progress := by
  induction rest generalizing index chain state run with
  | nil =>
      refine Or.inl ⟨⟨chain, state, rfl⟩, fun place step sessionId action found => ?_⟩
      have short : steps.length ≤ index := List.drop_eq_nil_iff.mp toCome
      have inRange : place < steps.length := (List.getElem?_eq_some_iff.mp found).1
      exact before place (Nat.lt_of_lt_of_le inRange short) step sessionId action found
  | cons step rest ih =>
      have found : steps[index]? = some step := by
        rw [← List.head?_drop, toCome, List.head?_cons]
      have restToCome : steps.drop (index + 1) = rest := by
        rw [← List.tail_drop, toCome, List.tail_cons]
      have plays : Plays sandbox limit options steps index step state run :=
        step_plays mode (fun answered => fit _ (answered_next _ before answered)) found playing counted
      rw [walk]
      rcases plays with ⟨answered, next, later, applied, -, nextPlaying, nextCounted⟩ |
        ⟨unanswered, reason, later, applied⟩
      · rw [applied]
        exact ih (index + 1) restToCome _ next later nextPlaying nextCounted (answered_next _ before answered)
      · have inRange : index < steps.length := (List.getElem?_eq_some_iff.mp found).1
        rw [applied]
        exact Or.inr ⟨index, reason.toFailure, rfl, inRange, unanswered, before⟩

theorem playing_start (now : Nat) : Playing sandbox [] ⟨⟨now, [], sandbox⟩, ∅⟩ :=
  ⟨rfl, rfl, nofun, fun _ _ => rfl⟩

theorem plays_moved (plays : Plays sandbox limit options steps index step state run) (next : State)
    (later : Underway ScriptedSandbox)
    (moved : (ScriptedSandbox.environment limit).step options state step run = (.next next, later)) :
    sandbox.Answered limit.toNat steps index ∧ sandbox.Makes steps index step state next ∧
      Playing sandbox (steps.take (index + 1)) later ∧ Counted (steps.take (index + 1)) next := by
  rcases plays with ⟨answered, found, after, applied, made⟩ | ⟨-, reason, after, applied⟩
  · rw [moved] at applied
    cases applied
    exact ⟨answered, made⟩
  · rw [moved] at applied
    cases applied

-- By induction on the index: at every step of a run that went through its states, all before were answered.
theorem driven_plays (mode : options.mode = .live) (fit : sandbox.KeepsCounts limit.toNat steps)
    (states : Nat → State) (runs : Nat → Underway ScriptedSandbox) (now : Nat) (start : states 0 = .empty)
    (startRun : runs 0 = ⟨⟨now, [], sandbox⟩, ∅⟩)
    (moves : ∀ i step, steps[i]? = some step →
      (ScriptedSandbox.environment limit).step options (states i) step (runs i) =
        (.next (states (i + 1)), runs (i + 1)))
    (found : steps[index]? = some step) :
    (∀ place, place < index → sandbox.Answered limit.toNat steps place) ∧
      Plays sandbox limit options steps index step (states index) (runs index) := by
  induction index generalizing step with
  | zero =>
      have playing : Playing sandbox (steps.take 0) (runs 0) := startRun ▸ playing_start now
      have counted : Counted (steps.take 0) (states 0) := start ▸ counted_start
      exact ⟨nofun, step_plays mode (fun answered => fit _ (answered_next _ nofun answered)) found playing counted⟩
  | succ index ih =>
      have inRange : index + 1 < steps.length := (List.getElem?_eq_some_iff.mp found).1
      have foundBefore := List.getElem?_eq_getElem (Nat.lt_of_succ_lt inRange)
      obtain ⟨before, plays⟩ := ih foundBefore
      obtain ⟨answered, -, playing, counted⟩ := plays_moved plays _ _ (moves index _ foundBefore)
      have upToHere := answered_next _ before answered
      exact ⟨upToHere,
        step_plays mode (fun answered => fit _ (answered_next _ upToHere answered)) found playing counted⟩

theorem driven_makes (mode : options.mode = .live) (fit : sandbox.KeepsCounts limit.toNat steps)
    (states : Nat → State) (now : Nat) (start : states 0 = .empty)
    (driven : Driven ((ScriptedSandbox.environment limit).step options) ⟨⟨now, [], sandbox⟩, ∅⟩ steps states)
    (found : steps[index]? = some step) : sandbox.Makes steps index step (states index) (states (index + 1)) := by
  obtain ⟨runs, startRun, moves⟩ := driven
  obtain ⟨-, plays⟩ := driven_plays mode fit states runs now start startRun moves found
  exact (plays_moved plays _ _ (moves index step found)).2.1

end Walks

section Runs

variable {raw : Json} {options : Options} {prepared : Prepared}

theorem scripted_outcome (sandbox : ScriptedSandbox) (timeout : UInt64) (now : Nat)
    (ready : prepare raw options = .ok prepared) :
    ((ScriptedSandbox.environment timeout).execute raw options ⟨now, [], sandbox⟩).outcome =
      .ofProgress prepared (walk ((ScriptedSandbox.environment timeout).step options)
        ⟨options.traceId, prepared.plan.planId⟩ 0 .empty .empty prepared.plan.steps
        ⟨⟨now, [], sandbox⟩, ∅⟩).progress := by
  have provided : (ScriptedSandbox.environment timeout).lacksProvider options prepared.plan = false := by
    simp [Environment.lacksProvider, ScriptedSandbox.environment]
  rw [Environment.execute, ready]
  simp only [provided, Bool.false_eq_true, if_false]

theorem extract_makes (sandbox : ScriptedSandbox) (steps : List Step) (index : Nat) (id sessionId selector : String)
    (outputKey : String) (before after : State)
    (makes : sandbox.Makes steps index ⟨id, .sandbox sessionId (.extract selector outputKey)⟩ before after) :
    ∃ expected text, sandbox.entry? steps index sessionId = some expected ∧ expected.reply = .ok text ∧
      after.values.get? outputKey = some (Text.nfc (text.getD "")) := by
  obtain ⟨expected, text, own, replied, rfl⟩ := makes
  refine ⟨expected, text, own, replied, ?_⟩
  simp [State.afterSandbox, SandboxAction.outputKey?]

-- A live run with scripted sessions succeeds just when every session is called as its script begins, by entries
-- that succeed in time. Otherwise it halts at the first step that its own entry does not answer. When it
-- succeeds, every session step keeps the text of its own entry.
theorem scripted_run_follows (raw : Json) (options : Options) (prepared : Prepared)
    (ready : prepare raw options = .ok prepared) (mode : options.mode = .live)
    (sandbox : ScriptedSandbox) (timeout : UInt64) (now : Nat)
    (fit : sandbox.KeepsCounts timeout.toNat prepared.plan.steps) :
    let steps := prepared.plan.steps
    let run := (ScriptedSandbox.environment timeout).execute raw options ⟨now, [], sandbox⟩
    ((∃ result, run.outcome = .result result) ↔
        ∀ sessionId, Follows timeout.toNat (sessionCalls sessionId steps) (sandbox.script sessionId)) ∧
      ((¬ ∃ result, run.outcome = .result result) →
        ∃ index failure, run.outcome = .halted ⟨failure, some index⟩ ∧ index < steps.length ∧
          ¬ sandbox.Answered timeout.toNat steps index ∧
          ∀ earlier, earlier < index → sandbox.Answered timeout.toNat steps earlier) ∧
      ∀ result, run.outcome = .result result → ∃ states, FaithfulResult options prepared.plan states result ∧
        (∀ index step, steps[index]? = some step →
          sandbox.Makes steps index step (states index) (states (index + 1))) ∧
        ∀ index id sessionId selector outputKey,
          steps[index]? = some ⟨id, .sandbox sessionId (.extract selector outputKey)⟩ →
            ∃ expected text, sandbox.entry? steps index sessionId = some expected ∧ expected.reply = .ok text ∧
              (states (index + 1)).values.get? outputKey = some (Text.nfc (text.getD "")) := by
  intro steps run
  have outcome : run.outcome = _ := scripted_outcome sandbox timeout now ready
  have ends : sandbox.Ends timeout.toNat steps _ :=
    walk_ends mode fit ⟨options.traceId, prepared.plan.planId⟩ steps 0 List.drop_zero .empty .empty
      ⟨⟨now, [], sandbox⟩, ∅⟩ (playing_start now) counted_start nofun
  refine ⟨?_, ?_, fun result succeeded => ?_⟩
  · rw [← all_answered_iff]
    rcases ends with ⟨⟨chain, state, finished⟩, answered⟩ | ⟨index, failure, halted, -, unanswered, -⟩
    · rw [outcome, finished]
      exact iff_of_true ⟨_, rfl⟩ answered
    · rw [outcome, halted]
      exact iff_of_false nofun fun answered => unanswered (answered index)
  · intro unsuccessful
    rcases ends with ⟨⟨chain, state, finished⟩, -⟩ | ⟨index, failure, halted, inRange, unanswered, before⟩
    · rw [outcome, finished] at unsuccessful
      exact absurd ⟨_, rfl⟩ unsuccessful
    · rw [outcome, halted]
      exact ⟨index, failure, rfl, inRange, unanswered, before⟩
  · rw [outcome] at succeeded
    obtain ⟨states, faithful, driven⟩ := walked_result_faithful _ _ raw options prepared _ result ready succeeded
    have makes : ∀ index step, steps[index]? = some step →
        sandbox.Makes steps index step (states index) (states (index + 1)) := fun index step found =>
      driven_makes mode fit states now faithful.first driven found
    exact ⟨states, faithful, makes, fun index id sessionId selector outputKey found =>
      extract_makes sandbox steps index id sessionId selector outputKey _ _ (makes index _ found)⟩

def interleaved : Plan := ⟨"visit", 1, [⟨"enter", .sandbox "a" (.enter "#q" "hello")⟩,
  ⟨"count", .increment "n" 2⟩, ⟨"click", .sandbox "b" (.click "#go")⟩, ⟨"read", .sandbox "a" (.extract "#out" "k")⟩]⟩

def interleavedScripts : ScriptedSandbox :=
  (ScriptedSandbox.setScript {} "a"
    [⟨.enter "#q" "hello", .ok none, 3⟩, ⟨.extract "#out", .ok (some "done"), 5⟩]).setScript "b"
    [⟨.click "#go", .ok none, 0⟩]

theorem interleaved_scripts_followed :
    let run := (ScriptedSandbox.environment 5).execute interleaved.toJson { mode := .live } ⟨0, [], interleavedScripts⟩
    prepare interleaved.toJson { mode := .live } = .ok ⟨interleaved, interleaved.digest⟩ ∧
      interleavedScripts.KeepsCounts 5 interleaved.steps ∧ (∃ result, run.outcome = .result result) ∧
      ∀ sessionId, Follows 5 (sessionCalls sessionId interleaved.steps) (interleavedScripts.script sessionId) := by
  intro run
  have ready : prepare interleaved.toJson { mode := .live } = .ok ⟨interleaved, interleaved.digest⟩ :=
    (prepare_ok_iff _ _ _).mpr ⟨by decide, rfl, rfl, by decide, rfl⟩
  have fit : interleavedScripts.KeepsCounts 5 interleaved.steps := fun count _ =>
    counters_fit_of_turnover interleaved.steps (by decide) count
  have succeeded : ∃ result, run.outcome = .result result := ⟨_, rfl⟩
  exact ⟨ready, fit, succeeded,
    (scripted_run_follows _ _ _ ready rfl interleavedScripts 5 0 fit).1.mp succeeded⟩

def drowsy : Plan := ⟨"p", 1, [⟨"a", .sandbox "s" (.click "#go")⟩]⟩

def drowsyScripts : ScriptedSandbox :=
  ScriptedSandbox.setScript {} "s" [⟨.click "#go", .ok none, 10000000000000⟩]

-- A sleep ends after thirty years, however long it was to be. With more patience than that, a session that was to
-- sleep for even longer answers in time.
theorem drowsy_session_in_time :
    let timeout : UInt64 := 1000000000000
    let run := (ScriptedSandbox.environment timeout).execute drowsy.toJson { mode := .live } ⟨0, [], drowsyScripts⟩
    prepare drowsy.toJson { mode := .live } = .ok ⟨drowsy, drowsy.digest⟩ ∧
      drowsyScripts.KeepsCounts timeout.toNat drowsy.steps ∧ (∃ result, run.outcome = .result result) ∧
      ¬ ∀ (sessionId : String) (place : Nat) (call : SandboxCall),
        (sessionCalls sessionId drowsy.steps)[place]? = some call →
          ∃ expected : ScriptedCall, (drowsyScripts.script sessionId)[place]? = some expected ∧
            expected.call = call ∧ (∃ text, expected.reply = .ok text) ∧ expected.delay ≤ timeout.toNat := by
  intro timeout run
  have ready : prepare drowsy.toJson { mode := .live } = .ok ⟨drowsy, drowsy.digest⟩ :=
    (prepare_ok_iff _ _ _).mpr ⟨by decide, rfl, rfl, by decide, rfl⟩
  refine ⟨ready, fun count _ => counters_fit_of_turnover drowsy.steps (by decide) count, ⟨_, rfl⟩, fun inTime => ?_⟩
  obtain ⟨expected, own, -, -, bound⟩ := inTime "s" 0 (.click "#go") rfl
  cases own
  exact absurd bound (by decide)

end Runs

end PlanChain
