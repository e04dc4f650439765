import PlanChain.Execution.Live

/-! A world with a journal notes what a run begins in it and what comes of that, in the order in which it
happens, and the moment at which the run is cancelled. Nobody reads it before the run is over. -/

set_option autoImplicit false

namespace PlanChain

inductive Deed where
  | apply (state : State) (step : Step)
  | applied (result : Applied)
  | create (sessionId : String) (traceId : Option String)
  | call (sessionId : String) (call : SandboxCall)
  | answer (sessionId : String) (outcome : SandboxOutcome)
  | close (sessionId : String)
  | shutdown
  | cancel

namespace Deed

def begins : Deed → Bool
  | apply _ _ | call _ _ => true
  | _ => false

def moves : Deed → Bool
  | applied (.next _) | answer _ (.ok _) => true
  | _ => false

def isWork : Deed → Bool
  | create _ _ | call _ _ | answer _ _ => true
  | _ => false

def ofProvider : Deed → Bool
  | close _ | shutdown => true
  | deed => deed.isWork

def created? : Deed → Option String
  | create sessionId _ => some sessionId
  | _ => none

def called? : Deed → Option (String × SandboxCall)
  | call sessionId asked => some (sessionId, asked)
  | _ => none

def answered? : Deed → Option (String × SandboxOutcome)
  | answer sessionId outcome => some (sessionId, outcome)
  | _ => none

-- The moment of cancellation, if it came from one world to the next.
def moment {σ : Type} (cancelled : σ → Bool) (before after : σ) : List Deed :=
  if !cancelled before && cancelled after then [cancel] else []

end Deed

structure Journalled (σ : Type) where
  world : σ
  journal : List Deed

variable {σ α : Type} (cancelled : σ → Bool)

def Journalled.note (deeds : List Deed) (after : σ) (world : Journalled σ) : Journalled σ :=
  ⟨after, world.journal ++ (deeds ++ Deed.moment cancelled world.world after)⟩

def Alarm.journalled (alarm : Alarm σ) : Alarm (Journalled σ) where
  due := alarm.due
  ring world := world.note cancelled [] (alarm.ring world.world)

def Pending.journalled (notes : α → List Deed) (pending : Pending σ α) : Pending (Journalled σ) α where
  delay := pending.delay
  finish world :=
    let (value, after) := pending.finish world.world
    (value, world.note cancelled (notes value) after)

def Journalled.begin (deed : Deed) (notes : α → List Deed) (start : σ → Pending σ α × σ) (world : Journalled σ) :
    Pending (Journalled σ) α × Journalled σ :=
  let (pending, begun) := start world.world
  (pending.journalled cancelled notes, world.note cancelled [deed] begun)

def Applier.journalled (apply : Applier σ) : Applier (Journalled σ) := fun state step world =>
  let (result, after) := apply state step world.world
  let world := world.note cancelled [.apply state step] after
  (result, { world with journal := world.journal ++ [.applied result] })

def Provider.journalled (provider : Provider σ) : Provider (Journalled σ) where
  create sessionId traceId world :=
    world.note cancelled [.create sessionId traceId] (provider.create sessionId traceId world.world)
  call sessionId call :=
    Journalled.begin cancelled (.call sessionId call) (fun outcome => [.answer sessionId outcome])
      (provider.call sessionId call)
  close sessionId := Journalled.begin cancelled (.close sessionId) (fun _ => []) (provider.close sessionId)
  shutdown := Journalled.begin cancelled .shutdown (fun _ => []) provider.shutdown

def Environment.journalled (env : Environment σ) : Environment (Journalled σ) where
  apply := env.apply.journalled env.cancelled
  provider := env.provider.map (·.journalled env.cancelled)
  timeout := env.timeout
  cancelled world := env.cancelled world.world

def Timeline.withJournal (line : Timeline σ) (journal : List Deed) : Timeline (Journalled σ) :=
  ⟨line.now, line.alarms.map (·.journalled cancelled), ⟨line.world, journal⟩⟩

def Underway.withJournal (run : Underway σ) (journal : List Deed) : Underway (Journalled σ) :=
  ⟨run.line.withJournal cancelled journal, run.opened⟩

def Run.withJournal (run : Run (Timeline σ)) (journal : List Deed) : Run (Timeline (Journalled σ)) :=
  ⟨run.outcome, run.events, run.world.withJournal cancelled journal⟩

def Timeline.journalled (line : Timeline σ) : Timeline (Journalled σ) :=
  line.withJournal cancelled (if cancelled line.world then [.cancel] else [])

end PlanChain
