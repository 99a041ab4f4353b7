import RobotTrading.Proofs.Engine.Shape

/-!
# What a worker's streaming depends on

The part of a world that says how the symbol workers stand with their price
readers: for every task that is a worker's control loop or one of its price
readers, what it runs, whether it ended and whether it was aborted; for every
worker, its streaming flag, its current reader, its clients and its control
task; which streams of the feed still have their reader, and how many there are;
and whether dead streams are reopened.

Everything else lies outside the view: the hub, the reconciler and the helper
tasks, tokens, timers, reply slots, the workers' command queues and client
locks, the items in the streams, the store and the update ring. What the
session does from outside (sending commands, pushing to the feed, cancelling,
waiting) leaves the view as it is; so does a step of any task other than a
worker's or a reader's, except that the hub starts workers.

## Main definitions

* `StreamView`, `World.streams`.

## Main statements

* `World.streams_eq_of` : two worlds that agree on what the view reads have one view.
* The effects of the operations the workers' tasks use, one lemma each.
-/

namespace RobotTrading

/-- The worker whose stream the job drives: a worker's control loop or one of its price
    readers. -/
def Job.streamWorker? : Job → Option Nat
  | .worker wid _ | .reader wid _ _ => some wid
  | _ => none

/-- The stream a price reader holds, once it has subscribed. -/
def ReaderPhase.stream? : ReaderPhase → Option Nat
  | .start => none
  | .reading i | .fanning i _ | .hung i => some i

/-- What the view holds of a task: what it runs, whether it ended and whether it was aborted,
    if it drives a worker's stream. -/
def Task.streams (k : Task) : Option (Job × Bool × Bool) :=
  if k.job.streamWorker?.isSome then some (k.job, k.done, k.aborted) else none

/-- What the view holds of a worker. -/
structure WorkerStreams where
  /-- The streaming flag. -/
  streaming : Bool
  /-- Its current reader. -/
  reader : Option TaskId
  /-- Its clients. -/
  clients : List Client
  /-- Its control task. -/
  task : TaskId

/-- The view of a worker. -/
def Worker.streams (k : Worker) : WorkerStreams := ⟨k.streaming, k.reader, k.clients, k.task⟩

/-- How the workers stand with their price readers. -/
@[ext] structure StreamView where
  /-- What each control loop and price reader runs, whether it ended and whether it was
      aborted. -/
  tasks : TaskId → Option (Job × Bool × Bool)
  /-- The view of each worker. -/
  workers : Nat → Option WorkerStreams
  /-- The streams that still have their reader. -/
  isOpen : Nat → Bool
  /-- The number of streams ever opened. -/
  streamCount : Nat
  /-- Dead streams are reopened on the next robot list. -/
  resubscribe : Bool

namespace StreamView

variable (v : StreamView)

/-- Task `t` now has view `x`. -/
@[simps] def setTask (t : TaskId) (x : Option (Job × Bool × Bool)) : StreamView :=
  { v with tasks := Function.update v.tasks t x }

/-- Worker `wid` now has view `x`. -/
@[simps] def setWorker (wid : Nat) (x : Option WorkerStreams) : StreamView :=
  { v with workers := Function.update v.workers wid x }

/-- Stream `i` lost its reader. -/
@[simps] def closeStream (i : Nat) : StreamView :=
  { v with isOpen := Function.update v.isOpen i false }

/-- The feed opened a stream. -/
@[simps] def openStream : StreamView :=
  { v with isOpen := Function.update v.isOpen v.streamCount true, streamCount := v.streamCount + 1 }

end StreamView

namespace World

/-- The stream view of a world. -/
def streams (w : World) : StreamView where
  tasks t := w.tasks[t]?.bind Task.streams
  workers wid := (w.worker? wid).map Worker.streams
  isOpen := w.feed.isOpen
  streamCount := w.feed.streams.size
  resubscribe := w.settings.resubscribe

theorem bind_streams_modify {f : Task → Task} (hf : ∀ k, (f k).streams = k.streams) (ts : Array Task)
    (t x : TaskId) : (ts.modify t f)[x]?.bind Task.streams = ts[x]?.bind Task.streams := by
  rw [Array.getElem?_modify]
  split <;> cases ts[x]? <;> simp [hf]

/-- Two worlds that agree on the tasks, workers, streams and settings the view reads have one
    view. -/
theorem streams_eq_of {w w' : World}
    (ht : ∀ x : TaskId, w'.tasks[x]?.bind Task.streams = w.tasks[x]?.bind Task.streams)
    (hw : ∀ j, (w'.worker? j).map Worker.streams = (w.worker? j).map Worker.streams)
    (ho : w'.feed.isOpen = w.feed.isOpen) (hn : w'.feed.streams.size = w.feed.streams.size)
    (hs : w'.settings.resubscribe = w.settings.resubscribe) : w'.streams = w.streams := by
  unfold streams
  congr 1
  · funext x; exact ht x
  · funext j; exact hw j

/-- Changing streams without touching their receiving end keeps which are open. -/
theorem isOpen_modifyStream {f : ScriptedFeed} {i : Nat} {g : Queue FeedItem → Queue FeedItem}
    (hg : ∀ q, f.streams[i]? = some q → (g q).receiverOpen = q.receiverOpen) :
    (f.modifyStream i g).isOpen = f.isOpen := by
  funext x
  simp only [ScriptedFeed.isOpen, ScriptedFeed.modifyStream, Array.getElem?_modify]
  split
  · subst_vars
    cases hq : f.streams[x]? with
    | none => rfl
    | some q => simp [hg q hq]
  · rfl

/-! ### What keeps the view -/

section Calm

variable (w : World)

@[simp] theorem streams_wake (t : TaskId) : (w.wake t).streams = w.streams :=
  keeps_wake w streams (fun _ _ _ => rfl) t

@[simp] theorem streams_wakeAll (ts : List TaskId) : (w.wakeAll ts).streams = w.streams :=
  keeps_wakeAll w streams (fun _ _ _ => rfl) ts

@[simp] theorem streams_spend : w.spend.streams = w.streams := rfl

@[simp] theorem streams_deferTask (t : TaskId) : (w.deferTask t).streams = w.streams := by
  unfold deferTask
  split_ifs <;> rfl

@[simp] theorem streams_arm (t : TaskId) (d : Nat) : (w.arm t d).streams = w.streams := rfl

@[simp] theorem streams_disarm (t : TaskId) : (w.disarm t).streams = w.streams := rfl

@[simp] theorem streams_watch (i : Nat) (t : TaskId) : (w.watch i t).streams = w.streams := rfl

@[simp] theorem streams_unwatch (i : Nat) (t : TaskId) : (w.unwatch i t).streams = w.streams := rfl

@[simp] theorem streams_newToken (p : Option Nat) : (w.newToken p).1.streams = w.streams := rfl

@[simp] theorem streams_cancel (i : Nat) : (w.cancel i).streams = w.streams := by
  unfold cancel
  simp only [streams_wakeAll]
  rfl

@[simp] theorem streams_joinOn (t j : TaskId) : (w.joinOn t j).streams = w.streams :=
  streams_eq_of (bind_streams_modify (f := fun k => { k with joinWaker := some j }) (fun _ => rfl) _ _)
    (fun _ => rfl) rfl rfl rfl

@[simp] theorem streams_publish (r : Robot) : (w.publish r).streams = w.streams := rfl

@[simp] theorem streams_newReply : w.newReply.1.streams = w.streams := rfl

@[simp] theorem streams_answer (r : Nat) (x : ReplyValue) : (w.answer r x).streams = w.streams := by
  unfold answer
  split
  · simp only [streams_wakeAll]; rfl
  · rfl

@[simp] theorem streams_dropAnswer (r : Nat) : (w.dropAnswer r).streams = w.streams := by
  unfold dropAnswer
  split
  · simp only [streams_wakeAll]; rfl
  · rfl

@[simp] theorem streams_modifyHub (f : Hub → Hub) : (w.modifyHub f).streams = w.streams := rfl

@[simp] theorem streams_dropRequest (q : HubRequest) : (w.dropRequest q).streams = w.streams := by
  unfold dropRequest
  split <;> simp

theorem streams_modifyWorker_of (wid : Nat) {f : Worker → Worker}
    (hf : ∀ k, w.worker? wid = some k → (f k).streams = k.streams) :
    (w.modifyWorker wid f).streams = w.streams := by
  refine streams_eq_of (fun _ => rfl) (fun j => ?_) rfl rfl rfl
  rw [worker?_modifyWorker]
  split
  · subst_vars
    cases hk : w.worker? j with
    | none => rfl
    | some k => simp [hf _ hk]
  · rfl

@[simp] theorem streams_lockClients (wid : Nat) (t : TaskId) :
    (w.lockClients wid t).1.streams = w.streams := by
  unfold lockClients
  split
  · exact streams_modifyWorker_of _ _ fun _ _ => rfl
  · rfl

@[simp] theorem streams_unlockClients (wid : Nat) : (w.unlockClients wid).streams = w.streams := by
  unfold unlockClients
  split
  · rw [streams_wakeAll]; exact streams_modifyWorker_of _ _ fun _ _ => rfl
  · rfl

@[simp] theorem streams_leaveClients (wid : Nat) (t : TaskId) :
    (w.leaveClients wid t).streams = w.streams := by
  unfold leaveClients
  split
  · rw [streams_wakeAll]; exact streams_modifyWorker_of _ _ fun _ _ => rfl
  · rfl

@[simp] theorem streams_modifyWorker_commands (wid : Nat) (q : Queue WorkerCommand) :
    (w.modifyWorker wid fun k => { k with commands := q }).streams = w.streams :=
  streams_modifyWorker_of _ _ fun _ _ => rfl

@[simp] theorem streams_dropCommands (cmds : List WorkerCommand) :
    (w.dropCommands cmds).streams = w.streams := by
  induction cmds generalizing w with
  | nil => rfl
  | cons c cmds ih =>
    simp only [dropCommands, List.foldl_cons] at ih ⊢
    split <;> simp [ih]

@[simp] theorem streams_dropHandle (wid : Nat) : (w.dropHandle wid).streams = w.streams := by
  unfold dropHandle
  split <;> simp

theorem streams_tryCommand {wid : Nat} {c : WorkerCommand} {w' : World}
    (h : w.tryCommand wid c = .ok w') : w'.streams = w.streams := by
  unfold tryCommand at h
  split at h
  · split at h
    · cases h; simp
    · cases h
  · cases h

@[simp] theorem streams_modifyStream_open (i : Nat) {g : Queue FeedItem → Queue FeedItem}
    (hg : ∀ q, (g q).receiverOpen = q.receiverOpen) : (w.modifyStream i g).streams = w.streams := by
  refine streams_eq_of (fun _ => rfl) (fun _ => rfl) (isOpen_modifyStream fun q _ => hg q) ?_ rfl
  simp [modifyStream, ScriptedFeed.modifyStream]

@[simp] theorem streams_setStore (s : Store) : ({ w with store := s } : World).streams = w.streams := rfl

@[simp] theorem streams_pollReply (r : Nat) (t : TaskId) : (w.pollReply r t).1.streams = w.streams := by
  unfold pollReply
  split <;> rfl

@[simp] theorem streams_leaveReply (r : Nat) : (w.leaveReply r).streams = w.streams := rfl

@[simp] theorem streams_reserveRequest (t : TaskId) : (w.reserveRequest t).1.streams = w.streams := by
  unfold reserveRequest
  split <;> rfl

@[simp] theorem streams_pushRequest (q : HubRequest) : (w.pushRequest q).streams = w.streams := by
  unfold pushRequest
  split
  · split <;> simp
  · simp

@[simp] theorem streams_withdrawRequest (t : TaskId) : (w.withdrawRequest t).streams = w.streams := by
  unfold withdrawRequest
  split <;> simp

@[simp] theorem streams_setClock (c : Nat) : ({ w with clock := c } : World).streams = w.streams := rfl

@[simp] theorem streams_wakeDeferred : w.wakeDeferred.streams = w.streams := by
  unfold wakeDeferred
  rw [streams_wakeAll]
  rfl

@[simp] theorem streams_fireDue : w.fireDue.streams = w.streams := by
  unfold fireDue
  rw [streams_wakeAll]
  rfl

@[simp] theorem streams_park : w.park.streams = w.streams := by
  unfold park
  split
  · exact streams_fireDue w
  · split
    · rw [streams_fireDue]
      rfl
    · rfl

end Calm

/-! ### The operations that change the view -/

section Effects

variable (w : World)

theorem streams_tasks_size : w.streams.tasks w.tasks.size = none := by
  simp [streams]

theorem streams_workers_size : w.streams.workers w.workers.size = none := by
  simp [streams, worker?]

theorem streams_setJob (t : TaskId) (j : Job) :
    (w.setJob t j).streams = w.streams.setTask t
      ((w.tasks[t]?).bind fun k => Task.streams { k with job := j }) := by
  ext1
  · funext x
    simp only [streams, setJob, StreamView.setTask, Array.getElem?_modify, Function.update_apply]
    by_cases hx : x = t
    · subst hx; cases w.tasks[x]? <;> simp
    · simp [Ne.symm hx, hx]
  all_goals rfl

theorem streams_finish (t : TaskId) :
    (w.finish t).streams = w.streams.setTask t
      ((w.streams.tasks t).map fun x => (x.1, true, x.2.2)) := by
  have hm : ({ w with tasks := w.tasks.modify t fun k => { k with done := true, joinWaker := none } }
      : World).streams = w.streams.setTask t ((w.streams.tasks t).map fun x => (x.1, true, x.2.2)) := by
    ext1
    · funext x
      simp only [streams, StreamView.setTask, Array.getElem?_modify, Function.update_apply]
      by_cases hx : x = t
      · subst hx
        cases w.tasks[x]? with
        | none => simp
        | some k => simp only [if_true, Option.map_some, Option.bind_some, Task.streams]; split <;> rfl
      · simp [Ne.symm hx, hx]
    all_goals rfl
  unfold finish
  dsimp only
  split <;> simp [hm]

theorem streams_abort (t : TaskId) :
    (w.abort t).streams = if w.isDone t then w.streams else
      w.streams.setTask t ((w.streams.tasks t).map fun x => (x.1, x.2.1, true)) := by
  unfold abort
  split
  · rfl
  · rw [streams_wake]
    ext1
    · funext x
      simp only [streams, StreamView.setTask, Array.getElem?_modify, Function.update_apply]
      by_cases hx : x = t
      · subst hx
        cases w.tasks[x]? with
        | none => simp
        | some k => simp only [if_true, Option.map_some, Option.bind_some, Task.streams]; split <;> rfl
      · simp [Ne.symm hx, hx]
    all_goals rfl

theorem streams_spawn (j : Job) :
    (w.spawn j).1.streams = w.streams.setTask w.tasks.size (Task.streams ⟨j, false, none, false⟩) := by
  ext1
  · funext x
    simp only [streams, spawn, StreamView.setTask, Array.getElem?_push, Function.update_apply]
    split <;> simp_all
  all_goals rfl

theorem streams_modifyWorker (wid : Nat) (f : Worker → Worker) :
    (w.modifyWorker wid f).streams =
      w.streams.setWorker wid ((w.worker? wid).map fun k => (f k).streams) := by
  ext1
  case workers =>
    funext j
    simp only [streams, StreamView.setWorker, worker?_modifyWorker, Function.update_apply]
    by_cases hj : j = wid
    · subst hj; simp [Option.map_map, Function.comp_def]
    · simp [Ne.symm hj, hj]
  all_goals rfl

theorem streams_dropStream (i : Nat) :
    (w.dropStream i).streams = if i < w.streams.streamCount then w.streams.closeStream i else w.streams := by
  unfold dropStream
  split
  · rename_i q hq
    have hi : i < w.streams.streamCount := (Array.getElem?_eq_some_iff.1 hq).1
    rw [streams_wakeAll, if_pos hi]
    ext1
    · rfl
    · rfl
    · funext x
      simp only [streams, modifyStream, ScriptedFeed.modifyStream, ScriptedFeed.isOpen,
        StreamView.closeStream, Array.getElem?_modify, Function.update_apply]
      by_cases hx : x = i
      · subst hx; simp [hq, Queue.closeReceiver]
      · simp [Ne.symm hx, hx]
    · simp [streams, modifyStream, ScriptedFeed.modifyStream]
    · rfl
  · rename_i hq
    have hi : ¬ i < w.streams.streamCount := by
      simp only [streams]
      rw [Array.getElem?_eq_none_iff] at hq
      omega
    rw [if_neg hi]

/-- A subscription that makes a stream opens one more. -/
theorem streams_subscribe_stream {s : Symbol} {f : ScriptedFeed} {i : Nat}
    (h : w.feed.subscribe s = (f, .stream i)) :
    i = w.streams.streamCount ∧ ({ w with feed := f } : World).streams = w.streams.openStream := by
  unfold ScriptedFeed.subscribe at h
  split_ifs at h
  · cases h
  · cases h
  simp only [Prod.mk.injEq, ScriptedFeed.Subscription.stream.injEq] at h
  obtain ⟨rfl, rfl⟩ := h
  refine ⟨rfl, ?_⟩
  ext1
  · rfl
  · rfl
  · funext x
    simp only [streams, StreamView.openStream, ScriptedFeed.isOpen, Array.getElem?_push,
      Function.update_apply]
    split <;> simp_all [Queue.new]
  · simp [streams]
  · rfl

/-- A subscription that makes no stream leaves the streams as they were. -/
theorem streams_subscribe_of_ne {s : Symbol} {f : ScriptedFeed} {g : ScriptedFeed.Subscription}
    (h : w.feed.subscribe s = (f, g)) (hg : ∀ i, g ≠ .stream i) :
    ({ w with feed := f } : World).streams = w.streams := by
  unfold ScriptedFeed.subscribe at h
  split_ifs at h
  · cases h
    rfl
  · cases h
    rfl
  · cases h
    exact absurd rfl (hg _)

end Effects

end World

end RobotTrading
