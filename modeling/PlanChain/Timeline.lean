/-! Only waiting takes time: while one waits, the alarms that fall due ring in their order, and may change the
world. Work that has been begun is awaited up to a limit, and a wait may be cut short by what an alarm does. A
limit may be as long as one likes, but no sleep is longer than thirty years. -/

set_option autoImplicit false

namespace PlanChain

variable {σ α : Type}

def longestSleep : Nat := 30 * 365 * 86400000

def sleepLength (milliseconds : Nat) : Nat := min milliseconds longestSleep

structure Alarm (σ : Type) where
  due : Nat
  ring : σ → σ

structure Timeline (σ : Type) where
  now : Nat
  alarms : List (Alarm σ)
  world : σ

-- Work begun: the milliseconds it takes, for ever if none, and what comes of it when they have passed.
structure Pending (σ α : Type) where
  delay : Option Nat
  finish : σ → α × σ

inductive Awaited (α : Type) where
  | answered (value : α)
  | expired
  | cut

namespace Timeline

-- A timeline at its beginning, with its alarms in the order they fall due. An alarm sleeps from the
-- beginning until it rings.
def start (alarms : List (Alarm σ)) (world : σ) : Timeline σ :=
  let alarms := alarms.map fun alarm => { alarm with due := sleepLength alarm.due }
  ⟨0, alarms.mergeSort fun a b => a.due ≤ b.due, world⟩

def ringUntil (cut : σ → Bool) (moment now : Nat) : List (Alarm σ) → σ → Bool × Timeline σ
  | [], world => (false, ⟨moment, [], world⟩)
  | alarm :: rest, world =>
    if moment < alarm.due then (false, ⟨moment, alarm :: rest, world⟩)
    else if cut (alarm.ring world) then (true, ⟨max now alarm.due, rest, alarm.ring world⟩)
    else ringUntil cut moment (max now alarm.due) rest (alarm.ring world)

def giveWay (line : Timeline σ) : Timeline σ :=
  (ringUntil (fun _ => false) line.now line.now line.alarms line.world).2

-- Waits some milliseconds, and tells whether the wait was cut. Without a wait nothing rings.
def wait (line : Timeline σ) (cut : σ → Bool) (milliseconds : Nat) : Bool × Timeline σ :=
  if milliseconds = 0 then (false, line)
  else if cut line.world then (true, line)
  else ringUntil cut (line.now + milliseconds) line.now line.alarms line.world

def expire (line : Timeline σ) (cut : σ → Bool) (limit : Nat) : Awaited α × Timeline σ :=
  match line.wait cut limit with
  | (true, line) => (.cut, line)
  | (false, line) => (.expired, line)

-- Awaits pending work up to a limit. Work that takes exactly the limit still answers.
def await (line : Timeline σ) (cut : σ → Bool) (limit : Nat) (pending : Pending σ α) :
    Awaited α × Timeline σ :=
  match pending.delay with
  | none => line.expire cut limit
  | some delay =>
    if limit < delay then line.expire cut limit
    else
      match line.wait cut delay with
      | (true, line) => (.cut, line)
      | (false, line) =>
        let (value, world) := pending.finish line.world
        (.answered value, { line with world })

def settle (line : Timeline σ) (limit : Nat) (pending : Pending σ Unit) : Timeline σ :=
  (line.await (fun _ => false) limit pending).2

end Timeline

end PlanChain
