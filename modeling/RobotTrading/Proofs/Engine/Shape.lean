import RobotTrading.Engine.Session
import RobotTrading.Proofs.Engine.Workers
import RobotTrading.Proofs.Concurrency.Token

/-!
# The shape of the engine

The part of a world that the hub's registry and the reconcilers' known symbols
depend on: for every task other than a price reader, what it runs and whether it
has ended; for every worker, its token, its control task, whether its command
queue is open at either end and whether every queued command goes unanswered;
the token forest; the answers and open ends of the reply slots; and the hub's
requests, registry, token and task.

Waking tasks, timers, the client locks and the clients, the feed, the store
and the update ring lie outside the shape, and so does everything a price
reader does: a reader's step keeps the shape (`World.shape_stepReader`).

## Main definitions

* `Shape`, `World.shape`.

## Main statements

* `World.shape_stepReader`, `World.shape_dropTask_reader` : a price reader keeps the shape.
-/

namespace RobotTrading

/-- The job is a price reader's. -/
def Job.isReader : Job → Bool
  | .reader .. => true
  | _ => false

/-- What the shape holds of a task: what it runs and whether it has ended, unless it reads
    prices. -/
def Task.shape (k : Task) : Option (Job × Bool) :=
  if k.job.isReader then none else some (k.job, k.done)

/-- What the shape holds of a worker. -/
structure WorkerShape where
  /-- Its token. -/
  token : Nat
  /-- Its control task. -/
  task : TaskId
  /-- Its command queue still has a sender. -/
  senderOpen : Bool
  /-- Its command queue still has a receiver. -/
  receiverOpen : Bool
  /-- No queued command asks for an answer. -/
  unanswered : Bool

/-- The shape of a worker. -/
def Worker.shape (k : Worker) : WorkerShape :=
  ⟨k.token, k.task, k.commands.senderOpen, k.commands.receiverOpen,
    k.commands.items.all fun c => c.ack.isNone⟩

/-- What the shape holds of a reply slot. -/
structure ReplyShape where
  /-- The answer, once sent. -/
  value : Option ReplyValue
  /-- The sender may still answer. -/
  senderOpen : Bool
  /-- The receiver still waits. -/
  receiverOpen : Bool

/-- The shape of a reply slot. -/
def replyShape (r : Reply ReplyValue) : ReplyShape := ⟨r.value, r.senderOpen, r.receiverOpen⟩

/-- What the shape holds of the hub. -/
structure HubShape where
  /-- The requests waiting in its queue, oldest first. -/
  requests : List HubRequest
  /-- Its queue still has a receiver. -/
  receiverOpen : Bool
  /-- Its registry. -/
  registry : List (Symbol × Nat)
  /-- Its token. -/
  token : Nat
  /-- Its task. -/
  task : TaskId

/-- The shape of the hub. -/
def Hub.shape (h : Hub) : HubShape :=
  ⟨h.requests.items, h.requests.receiverOpen, h.workers, h.token, h.task⟩

/-- The part of a world that the registry and the known symbols depend on. -/
@[ext] structure Shape where
  /-- What each task other than a price reader runs, and whether it has ended. -/
  tasks : TaskId → Option (Job × Bool)
  /-- The shape of each worker. -/
  workers : Nat → Option WorkerShape
  /-- The token each token was made under. -/
  parentOf : Nat → Option Nat
  /-- The cancelled tokens. -/
  cancelled : Nat → Bool
  /-- The number of tokens made. -/
  tokenCount : Nat
  /-- The shape of each reply slot. -/
  replies : Nat → Option ReplyShape
  /-- The shape of the hub. -/
  hub : Option HubShape

namespace Shape

variable (s : Shape)

/-- Task `t` now has shape `v`. -/
@[simps] def setTask (t : TaskId) (v : Option (Job × Bool)) : Shape :=
  { s with tasks := Function.update s.tasks t v }

/-- Task `t` has ended. -/
def finish (t : TaskId) : Shape := s.setTask t ((s.tasks t).map fun p => (p.1, true))

/-- A new token made under `p`, cancelled from the start under a cancelled parent. -/
@[simps] def addToken (p : Option Nat) : Shape :=
  { s with
    parentOf := Function.update s.parentOf s.tokenCount p
    cancelled := Function.update s.cancelled s.tokenCount ((p.map s.cancelled).getD false)
    tokenCount := s.tokenCount + 1 }

/-- Reply slot `r` now has shape `v`. -/
@[simps] def setReply (r : Nat) (v : Option ReplyShape) : Shape :=
  { s with replies := Function.update s.replies r v }

/-- Worker `wid` now has shape `v`. -/
@[simps] def setWorker (wid : Nat) (v : Option WorkerShape) : Shape :=
  { s with workers := Function.update s.workers wid v }

/-- The hub now has shape `v`. -/
@[simps] def setHub (v : Option HubShape) : Shape := { s with hub := v }

end Shape

namespace Queue

variable {α : Type} (q : Queue α)

@[simp] theorem wakeReceiver_items : q.wakeReceiver.1.items = q.items := by
  unfold wakeReceiver; split <;> rfl

@[simp] theorem wakeReceiver_senderOpen : q.wakeReceiver.1.senderOpen = q.senderOpen := by
  unfold wakeReceiver; split <;> rfl

@[simp] theorem wakeReceiver_receiverOpen : q.wakeReceiver.1.receiverOpen = q.receiverOpen := by
  unfold wakeReceiver; split <;> rfl

@[simp] theorem push_senderOpen (x : α) : (q.push x).1.senderOpen = q.senderOpen := by
  simp [push]

@[simp] theorem push_receiverOpen (x : α) : (q.push x).1.receiverOpen = q.receiverOpen := by
  simp [push]

@[simp] theorem reserve_items (t : TaskId) : (q.reserve t).1.items = q.items := by
  unfold reserve; split_ifs <;> rfl

@[simp] theorem reserve_senderOpen (t : TaskId) : (q.reserve t).1.senderOpen = q.senderOpen := by
  unfold reserve; split_ifs <;> rfl

@[simp] theorem reserve_receiverOpen (t : TaskId) :
    (q.reserve t).1.receiverOpen = q.receiverOpen := by
  unfold reserve; split_ifs <;> rfl

@[simp] theorem release_items : q.release.1.items = q.items := by
  unfold release; split <;> rfl

@[simp] theorem release_senderOpen : q.release.1.senderOpen = q.senderOpen := by
  unfold release; split <;> rfl

@[simp] theorem release_receiverOpen : q.release.1.receiverOpen = q.receiverOpen := by
  unfold release; split <;> rfl

@[simp] theorem withdraw_items (t : TaskId) : (q.withdraw t).1.items = q.items := by
  unfold withdraw; split_ifs <;> simp

@[simp] theorem withdraw_senderOpen (t : TaskId) : (q.withdraw t).1.senderOpen = q.senderOpen := by
  unfold withdraw; split_ifs <;> simp

@[simp] theorem withdraw_receiverOpen (t : TaskId) :
    (q.withdraw t).1.receiverOpen = q.receiverOpen := by
  unfold withdraw; split_ifs <;> simp

@[simp] theorem recv_items (t : TaskId) : (q.recv t).1.items = q.items.tail := by
  unfold recv; split
  · simp_all
  · split <;> simp_all

@[simp] theorem recv_senderOpen (t : TaskId) : (q.recv t).1.senderOpen = q.senderOpen := by
  unfold recv; split
  · simp
  · split <;> rfl

@[simp] theorem recv_receiverOpen (t : TaskId) : (q.recv t).1.receiverOpen = q.receiverOpen := by
  unfold recv; split
  · simp
  · split <;> rfl

@[simp] theorem closeSender_items : q.closeSender.1.items = q.items := by simp [closeSender]

@[simp] theorem closeSender_senderOpen : q.closeSender.1.senderOpen = false := by
  simp [closeSender]

@[simp] theorem closeSender_receiverOpen : q.closeSender.1.receiverOpen = q.receiverOpen := by
  simp [closeSender]

/-- A command is refused as closed exactly when the receiver is gone. -/
theorem trySend_closed_iff (x : α) :
    (∃ e, q.trySend x = .error e ∧ e = .closed) ↔ q.receiverOpen = false := by
  unfold trySend
  split_ifs <;> simp_all

/-- A command sent without waiting goes at the tail, leaving both ends as they were. -/
theorem trySend_ok {x : α} {q' : Queue α} {ws : List TaskId} (h : q.trySend x = .ok (q', ws)) :
    q'.items = q.items ++ [x] ∧ q'.senderOpen = q.senderOpen ∧ q'.receiverOpen = q.receiverOpen := by
  unfold trySend at h
  split_ifs at h
  simp only [Except.ok.injEq] at h
  rw [← show (push { q with free := q.free - 1 } x).1 = q' from congrArg Prod.fst h]
  simp [push_items]

end Queue

namespace Reply

variable (r : Reply ReplyValue)

@[simp] theorem replyShape_poll (t : TaskId) : replyShape (r.poll t).1 = replyShape r := by
  unfold poll
  split
  · rfl
  · split <;> rfl

theorem replyShape_send (v : ReplyValue) :
    replyShape (r.send v).1 =
      if r.receiverOpen then ⟨some v, false, true⟩ else ⟨r.value, false, false⟩ := by
  unfold send replyShape
  split <;> simp_all

@[simp] theorem replyShape_dropSender :
    replyShape r.dropSender.1 = ⟨r.value, false, r.receiverOpen⟩ := by
  unfold dropSender replyShape
  split <;> simp_all

@[simp] theorem replyShape_dropReceiver :
    replyShape r.dropReceiver = ⟨r.value, r.senderOpen, false⟩ := rfl

end Reply

namespace World

/-- The shape of a world. -/
def shape (w : World) : Shape where
  tasks t := w.tasks[t]?.bind Task.shape
  workers wid := (w.worker? wid).map Worker.shape
  parentOf := w.tokens.parentOf
  cancelled := w.cancelled
  tokenCount := w.tokens.nodes.size
  replies r := w.replies[r]?.map replyShape
  hub := w.hub.map Hub.shape

theorem shape_workers_of {w : World} {wid : Nat} {k : Worker} (hk : w.worker? wid = some k) :
    w.shape.workers wid = some k.shape := by
  simp [shape, hk]

theorem shape_hub_of {w : World} {h : Hub} (hh : w.hub = some h) : w.shape.hub = some h.shape := by
  simp [shape, hh]

theorem bind_shape_modify {f : Task → Task} (hf : ∀ k, (f k).shape = k.shape) (ts : Array Task)
    (t x : TaskId) : (ts.modify t f)[x]?.bind Task.shape = ts[x]?.bind Task.shape := by
  rw [Array.getElem?_modify]
  split <;> cases ts[x]? <;> simp [hf]

/-- Two worlds with the same tasks, workers, tokens, replies and hub, as far as the shape sees
    them, have the same shape. -/
theorem shape_eq_of {w w' : World}
    (ht : ∀ x : TaskId, w'.tasks[x]?.bind Task.shape = w.tasks[x]?.bind Task.shape)
    (hw : ∀ j, (w'.worker? j).map Worker.shape = (w.worker? j).map Worker.shape)
    (hp : w'.tokens.parentOf = w.tokens.parentOf) (hc : w'.tokens.isCancelled = w.tokens.isCancelled)
    (hn : w'.tokens.nodes.size = w.tokens.nodes.size)
    (hr : ∀ r : Nat, w'.replies[r]?.map replyShape = w.replies[r]?.map replyShape)
    (hh : w'.hub.map Hub.shape = w.hub.map Hub.shape) : w'.shape = w.shape := by
  unfold shape cancelled
  congr 1
  · funext x; exact ht x
  · funext j; exact hw j
  · funext r; exact hr r

/-! ### What keeps the shape -/

section Calm

variable (w : World)

@[simp] theorem shape_wake (t : TaskId) : (w.wake t).shape = w.shape :=
  keeps_wake w shape (fun _ _ _ => rfl) t

@[simp] theorem shape_wakeAll (ts : List TaskId) : (w.wakeAll ts).shape = w.shape :=
  keeps_wakeAll w shape (fun _ _ _ => rfl) ts

@[simp] theorem shape_spend : w.spend.shape = w.shape := rfl

@[simp] theorem shape_deferTask (t : TaskId) : (w.deferTask t).shape = w.shape := by
  unfold deferTask
  split_ifs <;> rfl

@[simp] theorem shape_arm (t : TaskId) (d : Nat) : (w.arm t d).shape = w.shape := rfl

@[simp] theorem shape_disarm (t : TaskId) : (w.disarm t).shape = w.shape := rfl

@[simp] theorem shape_watch (i : Nat) (t : TaskId) : (w.watch i t).shape = w.shape :=
  shape_eq_of (fun _ => rfl) (fun _ => rfl) (Tokens.parentOf_watch ..) (Tokens.isCancelled_watch ..)
    (Tokens.size_watch ..) (fun _ => rfl) rfl

@[simp] theorem shape_unwatch (i : Nat) (t : TaskId) : (w.unwatch i t).shape = w.shape :=
  shape_eq_of (fun _ => rfl) (fun _ => rfl) (Tokens.parentOf_unwatch ..)
    (Tokens.isCancelled_unwatch ..) (Tokens.size_unwatch ..) (fun _ => rfl) rfl

@[simp] theorem shape_joinOn (t j : TaskId) : (w.joinOn t j).shape = w.shape :=
  shape_eq_of (bind_shape_modify (f := fun k => { k with joinWaker := some j }) (fun _ => rfl) _ _)
    (fun _ => rfl) rfl rfl rfl (fun _ => rfl) rfl

@[simp] theorem shape_abort (t : TaskId) : (w.abort t).shape = w.shape := by
  unfold abort
  split
  · rfl
  · rw [shape_wake]
    exact shape_eq_of (bind_shape_modify (f := fun k => { k with aborted := true }) (fun _ => rfl) _ _)
      (fun _ => rfl) rfl rfl rfl (fun _ => rfl) rfl

@[simp] theorem shape_publish (r : Robot) : (w.publish r).shape = w.shape := rfl

@[simp] theorem shape_modifyStream (i : Nat) (f : Queue FeedItem → Queue FeedItem) :
    (w.modifyStream i f).shape = w.shape := rfl

@[simp] theorem shape_dropStream (i : Nat) : (w.dropStream i).shape = w.shape := by
  unfold dropStream
  split <;> simp

@[simp] theorem shape_pollReply (r : Nat) (t : TaskId) : (w.pollReply r t).1.shape = w.shape := by
  unfold pollReply
  split
  · rename_i slot hs
    refine shape_eq_of (fun _ => rfl) (fun _ => rfl) rfl rfl rfl (fun x => ?_) rfl
    rw [Array.getElem?_modify]
    split
    · subst_vars; rw [hs]; simp
    · rfl
  · rfl

theorem shape_modifyWorker_of (wid : Nat) {f : Worker → Worker}
    (hf : ∀ k, w.worker? wid = some k → (f k).shape = k.shape) :
    (w.modifyWorker wid f).shape = w.shape := by
  refine shape_eq_of (fun _ => rfl) (fun j => ?_) rfl rfl rfl (fun _ => rfl) rfl
  rw [worker?_modifyWorker]
  split
  · subst_vars
    cases hk : w.worker? j with
    | none => rfl
    | some k => simp [hf _ hk]
  · rfl

theorem shape_modifyHub_of {f : Hub → Hub} (hf : ∀ h, w.hub = some h → (f h).shape = h.shape) :
    (w.modifyHub f).shape = w.shape := by
  refine shape_eq_of (fun _ => rfl) (fun _ => rfl) rfl rfl rfl (fun _ => rfl) ?_
  cases hh : w.hub with
  | none => simp [modifyHub, hh]
  | some h => simp [modifyHub, hh, hf _ hh]

@[simp] theorem shape_lockClients (wid : Nat) (t : TaskId) : (w.lockClients wid t).1.shape = w.shape := by
  unfold lockClients
  split
  · exact shape_modifyWorker_of _ _ fun _ _ => rfl
  · rfl

@[simp] theorem shape_unlockClients (wid : Nat) : (w.unlockClients wid).shape = w.shape := by
  unfold unlockClients
  split
  · rw [shape_wakeAll]; exact shape_modifyWorker_of _ _ fun _ _ => rfl
  · rfl

@[simp] theorem shape_leaveClients (wid : Nat) (t : TaskId) :
    (w.leaveClients wid t).shape = w.shape := by
  unfold leaveClients
  split
  · rw [shape_wakeAll]; exact shape_modifyWorker_of _ _ fun _ _ => rfl
  · rfl

@[simp] theorem shape_reserveRequest (t : TaskId) : (w.reserveRequest t).1.shape = w.shape := by
  unfold reserveRequest
  split
  · exact shape_modifyHub_of _ fun _ hh => by simp_all [Hub.shape]
  · rfl

@[simp] theorem shape_withdrawRequest (t : TaskId) : (w.withdrawRequest t).shape = w.shape := by
  unfold withdrawRequest
  split
  · rw [shape_wakeAll]; exact shape_modifyHub_of _ fun _ hh => by simp_all [Hub.shape]
  · rfl

end Calm

/-! ### Price readers keep the shape -/

section Readers

variable {w : World} {t : TaskId}

theorem shape_setJob_of_reader (ht : w.shape.tasks t = none) {j : Job} (hj : j.isReader = true) :
    (w.setJob t j).shape = w.shape := by
  refine shape_eq_of (fun x => ?_) (fun _ => rfl) rfl rfl rfl (fun _ => rfl) rfl
  simp only [setJob, Array.getElem?_modify]
  split
  · subst_vars
    simp only [shape] at ht
    cases hk : w.tasks[x]? with
    | none => rfl
    | some k => simp [Task.shape, hj, hk ▸ ht]
  · rfl

theorem shape_finish_of_reader (ht : w.shape.tasks t = none) : (w.finish t).shape = w.shape := by
  have hm : ({ w with tasks := w.tasks.modify t fun k => { k with done := true, joinWaker := none } }
      : World).shape = w.shape := by
    refine shape_eq_of (fun x => ?_) (fun _ => rfl) rfl rfl rfl (fun _ => rfl) rfl
    simp only [Array.getElem?_modify]
    split
    · subst_vars
      simp only [shape] at ht
      cases hk : w.tasks[x]? with
      | none => rfl
      | some k =>
        rw [hk, Option.bind_some, Task.shape] at ht
        split at ht
        · simp [Task.shape, *]
        · cases ht
    · rfl
  unfold finish
  dsimp only
  split <;> simp [hm]

theorem shape_endReader (ht : w.shape.tasks t = none) (wid tok : Nat) (stream : Option Nat) :
    (w.endReader t wid tok stream).1.shape = w.shape := by
  have key : ∀ w' : World, w'.shape = w.shape →
      ((w'.modifyWorker wid fun k => { k with streaming := false }).finish t).shape = w.shape := by
    intro w' hw'
    have hm : (w'.modifyWorker wid fun k => { k with streaming := false }).shape = w.shape := by
      refine (shape_modifyWorker_of _ _ fun _ _ => ?_).trans hw'
      rfl
    rw [shape_finish_of_reader (hm ▸ ht), hm]
  unfold endReader
  split <;> exact key _ (by simp)

theorem shape_crashReader (ht : w.shape.tasks t = none) (wid tok stream : Nat) :
    (w.crashReader t wid tok stream).shape = w.shape := by
  unfold crashReader
  have hm : ((w.leaveClients wid t).dropStream stream |>.unwatch tok t).shape = w.shape := by simp
  rw [shape_finish_of_reader (hm ▸ ht), hm]

/-- Handing a tick to the clients keeps the shape. -/
theorem shape_fanOut (ht : w.shape.tasks t = none) (wid tok stream : Nat) (x : PriceTick)
    (cs done : List Client) : (fanOut t wid tok stream x cs done w).1.shape = w.shape := by
  induction cs generalizing done w with
  | nil =>
    simp only [fanOut]
    have hm : ((w.modifyWorker wid fun k => { k with clients := done.reverse }).unlockClients
        wid).shape = w.shape :=
      (shape_unlockClients ..).trans (shape_modifyWorker_of _ _ fun _ _ => rfl)
    rw [shape_setJob_of_reader (hm ▸ ht) (by rfl), hm]
  | cons c rest ih =>
    simp only [fanOut]
    split
    · exact ih ht _
    · split
      · have hm : (w.modifyWorker wid fun k => { k with clients := done.reverse ++
            (c.onTick x).1 :: rest }).shape = w.shape := shape_modifyWorker_of _ _ fun _ _ => rfl
        rw [shape_setJob_of_reader (hm ▸ ht) (by rfl), hm]
      · rw [ih (by exact ht)]; rfl
    · have hm : (w.modifyWorker wid fun k => { k with clients := done.reverse ++
          (c.onTick x).1 :: rest }).shape = w.shape := shape_modifyWorker_of _ _ fun _ _ => rfl
      rw [shape_crashReader (hm ▸ ht), hm]

/-- **A price reader keeps the shape.** -/
theorem shape_stepReader (ht : w.shape.tasks t = none) (wid tok : Nat) (p : ReaderPhase) :
    (w.stepReader t wid tok p).1.shape = w.shape := by
  unfold stepReader
  split
  · exact shape_finish_of_reader ht
  · rename_i k hk
    split
    · -- subscribing
      split
      · exact shape_endReader ht ..
      · rcases w.feed.subscribe k.symbol with ⟨f, got⟩
        have hf : ({ w with feed := f } : World).shape = w.shape := rfl
        dsimp only
        split
        · exact (shape_setJob_of_reader (hf ▸ ht) (by rfl)).trans hf
        · exact (shape_endReader (hf ▸ ht) ..).trans hf
        · have hu : (({ w with feed := f } : World).unwatch tok t).shape = w.shape := by
            rw [shape_unwatch, hf]
          exact (shape_finish_of_reader (hu ▸ ht)).trans hu
    · -- reading its stream
      split
      · exact shape_endReader ht ..
      · split
        · exact shape_deferTask ..
        · split
          · exact shape_endReader ht ..
          · rename_i q hq
            rcases q.recv t with ⟨q', got, ws⟩
            have hm : ∀ i, ((w.modifyStream i fun _ => q').wakeAll ws).shape = w.shape := by simp
            dsimp only
            split
            · exact (shape_setJob_of_reader (by simpa using ht) (by rfl)).trans (by simp)
            · exact (shape_endReader (by rw [hm]; exact ht) ..).trans (hm _)
            · exact (shape_endReader (by rw [hm]; exact ht) ..).trans (hm _)
            · exact (shape_watch ..).trans (hm _)
    · -- handing a tick to the clients
      split
      · exact shape_setJob_of_reader ht (by rfl)
      · split
        · exact shape_deferTask ..
        · rcases hl : w.lockClients wid t with ⟨w₁, got⟩
          have hw₁ : w₁.shape = w.shape := by rw [← shape_lockClients w wid t, hl]
          dsimp only
          split
          · exact (shape_fanOut (by rw [shape_spend, hw₁]; exact ht) ..).trans
              (by rw [shape_spend, hw₁])
          · exact hw₁
    · rfl

/-- An aborted price reader, dropped where it stands, keeps the shape. -/
theorem shape_dropTask_reader (ht : w.shape.tasks t = none) (wid tok : Nat) (p : ReaderPhase) :
    (w.dropTask t (.reader wid tok p)).shape = w.shape := by
  unfold dropTask
  dsimp only
  have key : ∀ w' : World, w'.shape = w.shape → ((w'.unwatch tok t).finish t).shape = w.shape := by
    intro w' hw'
    rw [shape_finish_of_reader (by rw [shape_unwatch, hw']; exact ht), shape_unwatch, hw']
  split <;> exact key _ (by simp)

end Readers

/-! ### What the other helpers do to the shape -/

section Effects

variable (w : World)

theorem shape_tasks_size : w.shape.tasks w.tasks.size = none := by
  simp [shape]

theorem shape_replies_size : w.shape.replies w.replies.size = none := by
  simp [shape]

theorem shape_setJob {t : TaskId} {j₀ : Job} {d : Bool} (ht : w.shape.tasks t = some (j₀, d)) {j : Job}
    (hj : j.isReader = false) :
    (w.setJob t j).shape = w.shape.setTask t (some (j, d)) := by
  ext1
  · funext x
    simp only [shape, setJob, Shape.setTask, Array.getElem?_modify, Function.update_apply] at ht ⊢
    by_cases hx : x = t
    · subst hx
      cases hk : w.tasks[x]? with
      | none => simp [hk] at ht
      | some k =>
        rw [hk, Option.bind_some, Task.shape] at ht
        split at ht
        · cases ht
        · cases ht; simp [Task.shape, hj]
    · simp [Ne.symm hx, hx]
  all_goals rfl

theorem shape_finish (t : TaskId) : (w.finish t).shape = w.shape.finish t := by
  have hm : ({ w with tasks := w.tasks.modify t fun k => { k with done := true, joinWaker := none } }
      : World).shape = w.shape.finish t := by
    ext1
    · funext x
      simp only [shape, Shape.finish, Shape.setTask, Array.getElem?_modify, Function.update_apply]
      by_cases hx : x = t
      · subst hx
        cases w.tasks[x]? with
        | none => simp
        | some k => simp only [if_true, Option.map_some, Option.bind_some, Task.shape]; split <;> rfl
      · simp [Ne.symm hx, hx]
    all_goals rfl
  unfold finish
  dsimp only
  split <;> simp [hm]

theorem shape_spawn (j : Job) :
    (w.spawn j).1.shape = w.shape.setTask w.tasks.size (Task.shape ⟨j, false, none, false⟩) := by
  ext1
  · funext x
    simp only [shape, spawn, Shape.setTask, Array.getElem?_push, Function.update_apply]
    split <;> simp_all
  all_goals rfl

@[simp] theorem spawn_snd (j : Job) : (w.spawn j).2 = w.tasks.size := rfl

theorem shape_newToken (p : Option Nat) : (w.newToken p).1.shape = w.shape.addToken p := by
  ext1
  · rfl
  · rfl
  · funext x
    simp only [shape, newToken, Shape.addToken, Tokens.parentOf_create, Function.update_apply]
  · funext x
    simp only [shape, newToken, Shape.addToken, cancelled, Tokens.isCancelled_create,
      Function.update_apply]
    rfl
  · simp [shape, newToken, Shape.addToken]
  · rfl
  · rfl

@[simp] theorem newToken_snd (p : Option Nat) : (w.newToken p).2 = w.shape.tokenCount := rfl

theorem shape_cancel (i : Nat) :
    (w.cancel i).shape = { w.shape with cancelled := (w.tokens.cancel i).1.isCancelled } := by
  unfold cancel
  dsimp only
  rw [shape_wakeAll]
  ext1
  · rfl
  · rfl
  · exact Tokens.parentOf_cancel i
  · rfl
  · exact Tokens.size_cancel i
  · rfl
  · rfl

theorem shape_newReply :
    w.newReply.1.shape = w.shape.setReply w.replies.size (some ⟨none, true, true⟩) := by
  ext1
  case replies =>
    funext x
    simp only [shape, newReply, Shape.setReply, Array.getElem?_push, Function.update_apply]
    split <;> simp_all [replyShape, Reply.new]
  all_goals rfl

@[simp] theorem newReply_snd : w.newReply.2 = w.replies.size := rfl

/-- Setting a reply slot that exists changes its shape alone. -/
theorem shape_setReply {r : Nat} {slot : Reply ReplyValue} (hs : w.replies[r]? = some slot)
    (slot' : Reply ReplyValue) :
    ({ w with replies := w.replies.modify r fun _ => slot' } : World).shape =
      w.shape.setReply r (some (replyShape slot')) := by
  ext1
  case replies =>
    funext x
    simp only [shape, Shape.setReply, Array.getElem?_modify, Function.update_apply]
    by_cases hx : x = r
    · subst hx; simp [hs]
    · simp [Ne.symm hx, hx]
  all_goals rfl

theorem shape_answer (r : Nat) (v : ReplyValue) :
    (w.answer r v).shape = w.shape.setReply r ((w.shape.replies r).map fun x =>
        if x.receiverOpen then ⟨some v, false, true⟩ else ⟨x.value, false, false⟩) := by
  unfold answer
  split
  · rename_i slot hs
    rw [shape_wakeAll, shape_setReply w hs, Reply.replyShape_send]
    simp [shape, Shape.setReply, hs, replyShape]
  · rename_i hs
    ext1
    case replies =>
      funext x
      by_cases hx : x = r
      · subst hx; simp [shape, Shape.setReply, hs]
      · simp [Shape.setReply, hx]
    all_goals rfl

theorem shape_dropAnswer (r : Nat) :
    (w.dropAnswer r).shape = w.shape.setReply r ((w.shape.replies r).map fun x =>
        ⟨x.value, false, x.receiverOpen⟩) := by
  unfold dropAnswer
  split
  · rename_i slot hs
    rw [shape_wakeAll, shape_setReply w hs, Reply.replyShape_dropSender]
    simp [shape, Shape.setReply, hs, replyShape]
  · rename_i hs
    ext1
    case replies =>
      funext x
      by_cases hx : x = r
      · subst hx; simp [shape, Shape.setReply, hs]
      · simp [Shape.setReply, hx]
    all_goals rfl

theorem shape_leaveReply (r : Nat) :
    (w.leaveReply r).shape = w.shape.setReply r ((w.shape.replies r).map fun x =>
        ⟨x.value, x.senderOpen, false⟩) := by
  ext1
  case replies =>
    funext x
    simp only [shape, leaveReply, Shape.setReply, Array.getElem?_modify, Function.update_apply]
    by_cases hx : x = r
    · subst hx; cases w.replies[x]? <;> simp [replyShape, Reply.dropReceiver]
    · simp [Ne.symm hx, hx]
  all_goals rfl

theorem shape_modifyWorker (wid : Nat) (f : Worker → Worker) :
    (w.modifyWorker wid f).shape = w.shape.setWorker wid ((w.worker? wid).map fun k => (f k).shape) := by
  ext1
  case workers =>
    funext j
    simp only [shape, Shape.setWorker, worker?_modifyWorker, Function.update_apply]
    by_cases hj : j = wid
    · subst hj; simp [Option.map_map, Function.comp_def]
    · simp [Ne.symm hj, hj]
  all_goals rfl

theorem shape_modifyHub (f : Hub → Hub) :
    (w.modifyHub f).shape = w.shape.setHub (w.hub.map fun h => (f h).shape) := by
  ext1
  case hub => simp [shape, Shape.setHub, modifyHub, Option.map_map, Function.comp_def]
  all_goals rfl

theorem shape_pushRequest_open {h : Hub} (hh : w.hub = some h) (ho : h.requests.receiverOpen = true)
    (q : HubRequest) :
    (w.pushRequest q).shape = w.shape.setHub (some { h.shape with requests := h.shape.requests ++ [q] }) := by
  simp only [pushRequest, hh, ho, if_true]
  rw [shape_wakeAll, shape_modifyHub, hh]
  simp [Hub.shape, Queue.push_items]

/-- A request sent to a hub that is gone, or whose queue has no receiver, is dropped. -/
theorem pushRequest_of_closed (hh : ∀ h, w.hub = some h → h.requests.receiverOpen = false)
    (q : HubRequest) : w.pushRequest q = w.dropRequest q := by
  unfold pushRequest
  split
  · rename_i h hs
    simp [hh h hs]
  · rfl

@[simp] theorem dropRequest_command (c : HubCommand) : w.dropRequest (.command c) = w := rfl

theorem shape_pollReply_value {r : Nat} {t : TaskId} {v : ReplyValue}
    (h : (w.pollReply r t).2 = .value v) : ∃ x, w.shape.replies r = some x ∧ x.value = some v := by
  unfold pollReply at h
  split at h
  · rename_i slot hs
    refine ⟨replyShape slot, by simp [shape, hs], ?_⟩
    cases hv : slot.value with
    | none =>
      simp only [Reply.poll, hv] at h
      split at h <;> cases h
    | some x =>
      simp only [Reply.poll, hv, Reply.Answer.value.injEq] at h
      simp [replyShape, hv, h]
  · cases h

end Effects

end World

end RobotTrading
