import RobotTrading.Concurrency.Queue

/-!
# Reply slots

A reply slot carries one answer from one task to another. The answer is put in
once; the receiver is woken when it arrives, or when the sender is dropped
without answering. An answer put into a slot whose receiver is gone is lost.

## Main definitions

* `Reply`, `Reply.new`.
* `Reply.send`, `Reply.dropSender`, `Reply.poll`, `Reply.dropReceiver`.
-/

namespace RobotTrading

/-- A one-answer slot between two tasks. -/
structure Reply (α : Type) where
  /-- The answer, once sent. -/
  value : Option α
  /-- The sender may still answer. -/
  senderOpen : Bool
  /-- The receiver still waits for the answer. -/
  receiverOpen : Bool
  /-- The receiver, when it waits. -/
  waker : Option TaskId

namespace Reply

variable {α : Type}

/-- An empty slot with both sides held. -/
def new : Reply α := ⟨none, true, true, none⟩

/-- What the receiver finds. -/
inductive Answer (α : Type) where
  /-- The answer. -/
  | value (x : α)
  /-- The sender is gone without answering. -/
  | dropped
  /-- No answer yet; the receiver is woken when it comes. -/
  | pending

/-- Answer, waking the receiver; the answer is lost when the receiver is gone. -/
def send (r : Reply α) (x : α) : Reply α × List TaskId :=
  if r.receiverOpen then ({ r with value := some x, senderOpen := false, waker := none }, r.waker.toList)
  else ({ r with senderOpen := false }, [])

/-- Drop the sender without answering, waking the receiver. -/
def dropSender (r : Reply α) : Reply α × List TaskId :=
  if r.senderOpen then ({ r with senderOpen := false, waker := none }, r.waker.toList) else (r, [])

/-- Look for the answer on behalf of task `t`. -/
def poll (r : Reply α) (t : TaskId) : Reply α × Answer α :=
  match r.value with
  | some x => (r, .value x)
  | none => if r.senderOpen then ({ r with waker := some t }, .pending) else (r, .dropped)

/-- Drop the receiver: it no longer waits. -/
def dropReceiver (r : Reply α) : Reply α := { r with receiverOpen := false, waker := none }

end Reply

end RobotTrading
