/-!
# Tasks that take turns, under a clock

A `Clock τ` is a time and the alarms that tasks have set. A `Crew σ τ` says which tasks work on a
world `σ`, which of them are ready, and what a step of each does. `Crew.settle` lets them take
turns until none is ready: a task goes on until it is no longer ready, and tasks that became ready
meanwhile queue up behind those that already were. `Crew.advance` moves the clock on from alarm to
alarm and lets the tasks settle at each. Of tasks whose alarms go off at one time, the one that set
its alarm first takes its turn first.

Tasks may keep each other ready for ever, so a run ends after `Crew.patience` steps at the latest.
-/

namespace ChatSockets.Script

/-- A time, and the alarms that tasks have set. -/
structure Clock (τ : Type) where
  now : Nat := 0
  /-- the alarms, the oldest first -/
  alarms : List (τ × Nat) := []
  deriving Repr, Inhabited

namespace Clock

variable {τ : Type} [DecidableEq τ]

/-- The alarms of a task are those at the given times; the ones that were set before keep their
places. -/
def setFor (c : Clock τ) (t : τ) (times : List Nat) : Clock τ :=
  { c with
    alarms := (c.alarms.filter fun a => a.1 ≠ t || times.contains a.2) ++
      (times.filter fun time => !c.alarms.contains (t, time)).map fun time => (t, time) }

/-- The time of the first alarm after now, up to a time. -/
def next? (c : Clock τ) (limit : Nat) : Option Nat :=
  ((c.alarms.map Prod.snd).filter fun time => c.now < time && time ≤ limit).min?

/-- The tasks whose alarms go off now, each once. -/
def due (c : Clock τ) : List τ := ((c.alarms.filter fun a => a.2 = c.now).map Prod.fst).eraseDups

end Clock

/-- The tasks that work on a world with a clock. -/
structure Crew (σ τ : Type) where
  /-- all tasks, in the order in which they queue up when several become ready at once -/
  tasks : σ → List τ
  ready : σ → τ → Bool
  step : σ → τ → σ
  /-- the times at which a task may become ready by itself -/
  alarms : σ → τ → List Nat
  clock : σ → Clock τ
  setClock : σ → Clock τ → σ

namespace Crew

variable {σ τ : Type} [DecidableEq τ] (crew : Crew σ τ)

/-- The most steps until the tasks settle. -/
def patience : Nat := 64 * 1024 * 1024

/-- The queue with the tasks that became ready behind it. -/
def enlist (w : σ) (queue : List τ) : List τ :=
  queue ++ (crew.tasks w).filter fun t => !queue.contains t && crew.ready w t

/-- The alarms of a task are set. -/
def arm (w : σ) (t : τ) : σ := crew.setClock w ((crew.clock w).setFor t (crew.alarms w t))

/-- A step of a task, after which its alarms are set anew. -/
def turn (w : σ) (t : τ) : σ := crew.arm (crew.step w t) t

/-- At most so many steps of the tasks in a queue, of which the first one goes on while it is ready.
-/
def run : Nat → List τ → σ → σ
  | 0, _, w => w
  | steps + 1, queue, w =>
    match queue with
    | [] => w
    | t :: rest =>
      if crew.ready w t then run steps (t :: rest) (crew.turn w t)
      else run steps (crew.enlist w rest) w

/-- The tasks take turns until none is ready, those whose alarms go off first. In the end the alarms
of all are set, also of those that took no turn. -/
def settle (w : σ) : σ :=
  let w := crew.run patience (crew.enlist w (crew.clock w).due) w
  (crew.tasks w).foldl crew.arm w

/-- The clock is moved to a time, and the tasks settle. -/
def stop (w : σ) (now : Nat) : σ := crew.settle (crew.setClock w { crew.clock w with now })

/-- At most so many stops on the way to a time, the last of them there. -/
def advanceTo (target : Nat) : Nat → σ → σ
  | 0, w => w
  | stops + 1, w =>
    match (crew.clock w).next? target with
    | some time => advanceTo target stops (crew.stop w time)
    | none => crew.stop w target

/-- A number of milliseconds pass. There is at most one stop in each of them, before the last. -/
def advance (w : σ) (ms : Nat) : σ := crew.advanceTo ((crew.clock w).now + ms) (ms + 1) w

end Crew

end ChatSockets.Script
