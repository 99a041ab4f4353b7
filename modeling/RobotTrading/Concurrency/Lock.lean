import RobotTrading.Concurrency.Queue

/-!
# Fair locks

A lock is held by at most one task. A task that finds it held waits in line;
on release the lock goes straight to the first task in line, which is woken,
so no task overtakes one that waits. A task that gives up waiting leaves the
line, and if the lock was already handed to it, hands it on.

## Main definitions

* `Lock`, `Lock.free`.
* `Lock.acquire`, `Lock.release`, `Lock.abandon`.
-/

namespace RobotTrading

/-- A lock with its line of waiting tasks. -/
structure Lock where
  /-- The task that holds the lock or was handed it. -/
  holder : Option TaskId
  /-- Tasks waiting for the lock, first come first. -/
  waiting : List TaskId
deriving DecidableEq

namespace Lock

/-- A lock nobody holds. -/
def free : Lock := ⟨none, []⟩

/-- Task `t` asks for the lock: it has it when it was handed it or when the lock is free and
    nobody waits; otherwise it waits at the end of the line. -/
def acquire (l : Lock) (t : TaskId) : Lock × Bool :=
  if l.holder = some t then (l, true)
  else if l.holder.isNone ∧ l.waiting.isEmpty then ({ l with holder := some t }, true)
  else if t ∈ l.waiting then (l, false)
  else ({ l with waiting := l.waiting ++ [t] }, false)

/-- Release the lock to the first task in line, which is woken, or leave it free. -/
def release (l : Lock) : Lock × List TaskId :=
  match l.waiting with
  | t :: rest => (⟨some t, rest⟩, [t])
  | [] => (⟨none, []⟩, [])

/-- Task `t` no longer wants the lock: it leaves the line, or releases a lock it was handed. -/
def abandon (l : Lock) (t : TaskId) : Lock × List TaskId :=
  if l.holder = some t then l.release else ({ l with waiting := l.waiting.erase t }, [])

end Lock

end RobotTrading
