import RobotTrading.Concurrency.Queue

/-!
# Timers

Time is counted in whole milliseconds. A task arms at most one timer, a
deadline at which it is woken. Timers fire in order of their deadlines, and
timers with the same deadline in the order they were armed.

## Main definitions

* `Timers`, `Timers.arm`, `Timers.disarm`.
* `Timers.next` : the earliest deadline.
* `Timers.due` : the timers that fire by a given time, in firing order.
-/

namespace RobotTrading

/-- Armed timers: a task and its deadline, in the order they were armed. -/
abbrev Timers := List (TaskId × Nat)

namespace Timers

/-- Arm task `t`'s timer for `deadline`; a timer already armed for that deadline stays in its place. -/
def arm (ts : Timers) (t : TaskId) (deadline : Nat) : Timers :=
  if (t, deadline) ∈ ts then ts else ts.filter (·.1 != t) ++ [(t, deadline)]

/-- Disarm task `t`'s timer. -/
def disarm (ts : Timers) (t : TaskId) : Timers := ts.filter (·.1 != t)

/-- The earliest deadline. -/
def next (ts : Timers) : Option Nat :=
  ts.foldl (fun acc e => match acc with
    | some d => some (min d e.2)
    | none => some e.2) none

/-- Insert a timer into a list ordered by deadline, after those with the same deadline. -/
def insertByDeadline (e : TaskId × Nat) : Timers → Timers
  | [] => [e]
  | f :: rest => if e.2 < f.2 then e :: f :: rest else f :: insertByDeadline e rest

/-- The timers due at time `now`, in firing order, and the timers left. -/
def due (ts : Timers) (now : Nat) : List TaskId × Timers :=
  let fired := (ts.filter (·.2 ≤ now)).foldl (fun acc e => insertByDeadline e acc) []
  (fired.map (·.1), ts.filter fun e => now < e.2)

end Timers

end RobotTrading
