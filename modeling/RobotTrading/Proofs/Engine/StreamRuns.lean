import RobotTrading.Proofs.Engine.WorkerSteps

/-!
# Every run keeps the workers in order

The hub, the stoppers, the robot-list helpers, the reconcilers and the session
drive no stream: their steps leave the view as it is, except that the hub (and
the session) start workers. An aborted task is dropped where it stands; only
readers are ever aborted. So one step of any task keeps `StreamView.Sound`, and
so does every run of the scheduler: a run is a sequence of task steps, workers
started, and changes that leave the view as it is (`World.StreamMove`).

## Main statements

* `World.sound_spawnWorker` : starting a worker.
* `World.sound_handleRequest`, `World.sound_stepHub` : the hub.
* `World.sound_step` : one step of any task.
* `World.StreamMove`, `World.StreamMove.sound`, `World.sound_of_reaches` : runs.
* `World.reaches_block` : the scheduler's own run is one.
-/

namespace RobotTrading

namespace StreamView

/-- Setting a task to the view it has changes nothing. -/
theorem setTask_self (v : StreamView) (t : TaskId) : v.setTask t (v.tasks t) = v := by
  ext1
  · exact Function.update_eq_self t v.tasks
  all_goals rfl

/-- A worker made new, counting as streaming and with no reader yet. -/
theorem of_setWorker_make {v : StreamView} {wid : Nat} (hv : v.workers wid = none) (r : WorkerStreams)
    (hs : r.streaming = true) (hr : r.reader = none) :
    (v.setWorker wid (some r)).of wid = (v.of wid).make r.task r.clients := by
  ext1 <;> simp [of, setWorker, WorkerView.make, hv, hs, hr]

end StreamView

namespace World

open StreamView

variable {w : World} {t : TaskId} {wid : Nat}

/-! ### Tasks that drive no stream -/

theorem streams_setJob_none (ht : w.streams.tasks t = none) {j : Job} (hj : j.streamWorker? = none) :
    (w.setJob t j).streams = w.streams := by
  rw [streams_setJob]
  have hn : ((w.tasks[t]?).bind fun k => Task.streams { k with job := j }) = none := by
    cases w.tasks[t]? <;> simp [Task.streams, hj]
  rw [hn, ← ht, setTask_self]

theorem streams_finish_none (ht : w.streams.tasks t = none) : (w.finish t).streams = w.streams := by
  rw [streams_finish, ht, Option.map_none, ← ht, setTask_self]

theorem streams_spawn_none {j : Job} (hj : j.streamWorker? = none) :
    (w.spawn j).1.streams = w.streams := by
  rw [streams_spawn]
  have hn : Task.streams ⟨j, false, none, false⟩ = none := by simp [Task.streams, hj]
  rw [hn, ← streams_tasks_size w, setTask_self]

@[simp] theorem streams_spawn_robotIds (wid r : Nat) :
    (w.spawn (.robotIds wid r)).1.streams = w.streams :=
  streams_spawn_none rfl

@[simp] theorem streams_cancelWorker (wid : Nat) : (w.cancelWorker wid).streams = w.streams := by
  unfold cancelWorker
  split
  · rw [streams_spawn_none rfl, streams_cancel]
  · rfl

@[simp] theorem streams_forget (s : Symbol) : (w.forget s).streams = w.streams := rfl

theorem streams_stepStopper (ht : w.streams.tasks t = none) (wid : Nat) (s : Bool) :
    (w.stepStopper t wid s).1.streams = w.streams := by
  unfold stepStopper
  split
  · exact streams_finish_none ht
  · split
    · rw [streams_setJob_none (by simpa using ht) rfl, streams_cancel]
    · split
      · rw [streams_finish_none (by simpa using ht), streams_dropHandle]
      · exact streams_joinOn w _ _

theorem streams_stepRobotIds (ht : w.streams.tasks t = none) (wid r : Nat) :
    (w.stepRobotIds t wid r).1.streams = w.streams := by
  unfold stepRobotIds
  cases hq : w.lockClients wid t with
  | mk w' got =>
    have he : w'.streams = w.streams := by simpa [hq] using streams_lockClients w wid t
    dsimp only
    split
    · rw [streams_finish_none (by simpa [he] using ht)]
      simp [he]
    · exact he

theorem streams_endReconciler (ht : w.streams.tasks t = none) (r : ReconcilerState) :
    (w.endReconciler t r).1.streams = w.streams := by
  unfold endReconciler
  rw [streams_finish_none (by simpa using ht)]
  simp

theorem streams_stepReconciler (ht : w.streams.tasks t = none) (r : ReconcilerState) :
    (w.stepReconciler t r).1.streams = w.streams := by
  -- the reconciler moves on, ends, or waits; none of it shows in the view
  have go : ∀ w' : World, w'.streams = w.streams → ∀ r',
      (w'.setJob t (.reconciler r')).streams = w.streams := fun w' he r' => by
    rw [streams_setJob_none (he ▸ ht) rfl, he]
  have fin : ∀ w' : World, w'.streams = w.streams → (w'.endReconciler t r).1.streams = w.streams :=
    fun w' he => by rw [streams_endReconciler (he ▸ ht), he]
  unfold stepReconciler
  split
  · exact go w rfl _
  · split
    · exact fin _ (by simp)
    cases hq : w.reserveRequest t with
    | mk w' res =>
      have he : w'.streams = w.streams := by simpa [hq] using streams_reserveRequest w t
      dsimp only
      cases res with
      | granted => exact go _ (by simp [he]) _
      | closed => exact fin _ he
      | waiting => simp [he]
  · rename_i slot _
    split
    · exact fin _ (by simp)
    cases hq : w.pollReply slot t with
    | mk w' res =>
      have he : w'.streams = w.streams := by simpa [hq] using streams_pollReply w slot t
      dsimp only
      split
      · exact go _ (by simp [he]) _
      · exact fin _ he
      · exact fin _ he
      · simp [he]
  · split
    · exact fin _ rfl
    split
    · dsimp only
      split <;> exact go _ (by simp) _
    · simp
  · exact go w rfl _
  · split
    · exact fin _ (by simp)
    cases hq : w.reserveRequest t with
    | mk w' res =>
      have he : w'.streams = w.streams := by simpa [hq] using streams_reserveRequest w t
      dsimp only
      cases res with
      | granted => exact go _ (by simp [he]) _
      | closed => exact fin _ he
      | waiting => simp [he]

/-! ### Starting a worker, and the hub -/

theorem streams_pushWorker (w : World) (k : Worker) :
    ({ w with workers := w.workers.push k } : World).streams =
      w.streams.setWorker w.workers.size (some k.streams) := by
  ext1
  · rfl
  · funext j
    simp only [streams, worker?, StreamView.setWorker, Array.getElem?_push, Function.update_apply]
    split <;> simp_all
  all_goals rfl

/-- **A worker is started**, its control task at its start and its first clients attached,
    counting as streaming. -/
theorem sound_spawnWorker (h : w.streams.Sound) (s : Symbol) (robots : List Robot) (parent : Nat) :
    (w.spawnWorker s robots parent).1.streams.Sound := by
  set w₁ := (w.newToken (some parent)).1
  set k : Worker := ⟨s, (attachClients w.settings.policy [] robots).1, Lock.free, true,
    (w.newToken (some parent)).2, Queue.new w.settings.workerCapacity, none, w.tasks.size⟩
  have hw : (w.spawnWorker s robots parent).1 =
      (({ w₁ with workers := w₁.workers.push k } : World).spawn (.worker w₁.workers.size .start)).1 :=
    rfl
  have h₁ : w₁.streams.Sound := by simpa [w₁] using h
  have hv : w₁.streams.workers w₁.workers.size = none := streams_workers_size w₁
  rw [hw]
  refine h₁.of_local (show Local w₁.workers.size _ _ from ?_) ?_
  · rw [streams_spawn, streams_pushWorker]
    refine (Local.setWorker _ _).trans (.setTask ?_ (by rw [streams_task_worker]; exact mine_worker))
    show Mine _ (w₁.streams.tasks w₁.tasks.size)
    rw [streams_tasks_size]
    exact mine_none
  · rw [of_spawn, streams_pushWorker, of_setWorker_make hv _ rfl rfl, streams_task_worker,
      roleOf_worker_self, holdsOf_worker]
    exact (h₁ _).spawn (by simp [StreamView.of, hv]) _ _

theorem sound_handleRequest (h : w.streams.Sound) (req : HubRequest) :
    (w.handleRequest req).streams.Sound := by
  unfold handleRequest
  split
  · simpa using h
  rename_i hub _
  split
  · -- a register starts a worker unless the symbol has one
    split
    · exact h
    · rename_i s robots _
      rcases hsp : w.spawnWorker s robots hub.token with ⟨w', wid'⟩
      have h' := sound_spawnWorker h s robots hub.token
      rw [hsp] at h'
      simpa using h'
  · split <;> simpa using h
  · split
    · split
      · rename_i w' hw'
        rw [streams_tryCommand w hw']
        exact h
      · exact h
      · simpa using h
    · exact h
  · simpa using h
  · split
    · simpa using h
    · simpa using h

theorem streams_foldl_dropRequest (reqs : List HubRequest) (w : World) :
    (reqs.foldl dropRequest w).streams = w.streams := by
  induction reqs generalizing w with
  | nil => rfl
  | cons q reqs ih => rw [List.foldl_cons, ih, streams_dropRequest]

theorem streams_foldl_dropHandle (es : List (Symbol × Nat)) (w : World) :
    (es.foldl (fun w e => w.dropHandle e.2) w).streams = w.streams := by
  induction es generalizing w with
  | nil => rfl
  | cons e es ih => rw [List.foldl_cons, ih, streams_dropHandle]

theorem streams_endHub (ht : w.streams.tasks t = none) : (w.endHub t).1.streams = w.streams := by
  unfold endHub
  split
  · rename_i hub _
    rcases hc : hub.requests.closeReceiver with ⟨q, left, ws⟩
    dsimp only
    rw [streams_finish_none (by simpa [streams_foldl_dropRequest] using ht),
      streams_foldl_dropRequest]
    simp
  · exact streams_finish_none ht

theorem streams_leaveHub (ht : w.streams.tasks t = none) (hub : Hub) :
    (w.leaveHub t hub).1.streams = w.streams := by
  unfold leaveHub
  rw [streams_setJob_none (by simpa using ht) rfl]
  simp

theorem streams_abortHub (ht : w.streams.tasks t = none) (hub : Hub) :
    (w.abortHub t hub).1.streams = w.streams := by
  unfold abortHub
  rw [streams_endHub (by simpa [streams_foldl_dropHandle] using ht)]
  simp [streams_foldl_dropHandle]

/-- **One step of the hub**: it takes a request, or leaves its loop, or stops a worker, or ends. -/
theorem sound_stepHub (h : w.streams.Sound) (ht : w.streams.tasks t = none) (p : HubPhase) :
    (w.stepHub t p).1.streams.Sound := by
  unfold stepHub
  split
  · rw [streams_finish_none ht]
    exact h
  rename_i hub _
  split
  · split
    · rw [streams_leaveHub ht]
      exact h
    rcases hr : hub.requests.recv t with ⟨q, got, ws⟩
    dsimp only
    have he : ((w.modifyHub fun h => { h with requests := q }).wakeAll ws).streams = w.streams := by
      simp
    split
    · split
      · rw [streams_abortHub (by rw [he]; exact ht), he]
        exact h
      · exact sound_handleRequest (by simpa [he] using h) _
    · rw [streams_leaveHub (by rw [he]; exact ht), he]
      exact h
    · simpa [he] using h
  · rw [streams_endHub ht]
    exact h
  · split
    · dsimp only
      split
      · rw [streams_setJob_none (by simpa using ht) rfl]
        simpa using h
      · simpa using h
    · rw [streams_setJob_none ht rfl]
      exact h

/-! ### Any step -/

theorem streams_tasks_of {k : Task} (hk : w.tasks[t]? = some k) : w.streams.tasks t = k.streams := by
  simp [streams, hk]

/-- **An aborted task is dropped** where it stands. Only readers are ever aborted: a reader lets
    go of the lock and of its stream and ends. -/
theorem sound_dropTask (h : w.streams.Sound) {k : Task} (hk : w.tasks[t]? = some k)
    (hd : k.done = false) (ha : k.aborted = true) : (w.dropTask t k.job).streams.Sound := by
  have ht := streams_tasks_of hk
  cases hj : k.job with
  | reader wid tok ph =>
    simp only [Task.streams, hj, hd, ha, Job.streamWorker?, Option.isSome_some, ↓reduceIte] at ht
    cases ph with
    | start =>
      have ht' : ((w.leaveClients wid t).unwatch tok t).streams.tasks t =
          some (.reader wid tok .start, false, true) := by simpa using ht
      exact sound_finishReader (by simpa using h) ht' (by rintro _ ⟨⟩)
    | reading i => exact sound_crashReader h ht rfl tok
    | fanning i x => exact sound_crashReader h ht rfl tok
    | hung i => exact sound_crashReader h ht rfl tok
  | worker wid p =>
    -- the control task is never aborted
    simp only [Task.streams, hj, hd, ha, Job.streamWorker?, Option.isSome_some, ↓reduceIte] at ht
    have hx := control_of_worker h ht
    obtain ⟨q, e, hq⟩ := (h wid).control ((h wid).present_of_control hx)
    rw [hx] at hq
    cases hq
  | _ =>
    simp only [dropTask]
    rw [streams_finish_none (by simpa [Task.streams, hj, Job.streamWorker?] using ht)]
    exact h

/-- **One step of any task keeps every worker in order.** -/
theorem sound_step (h : w.streams.Sound) (t : TaskId) : (w.step t).1.streams.Sound := by
  unfold step
  split
  · exact h
  rename_i k hk
  have ht := streams_tasks_of hk
  split
  · exact h
  rename_i hd
  split
  · exact sound_dropTask h hk (by simpa using hd) ‹_›
  rename_i ha
  simp only [Bool.not_eq_true] at hd ha
  split
  · rename_i p hj
    exact sound_stepHub h (by simpa [Task.streams, hj, Job.streamWorker?] using ht) p
  · rename_i wid p hj
    exact sound_stepWorker h (by simpa [Task.streams, hj, hd, ha, Job.streamWorker?] using ht)
  · rename_i wid tok p hj
    exact sound_stepReader h (by simpa [Task.streams, hj, hd, ha, Job.streamWorker?] using ht)
  · rename_i wid s hj
    rw [streams_stepStopper (by simpa [Task.streams, hj, Job.streamWorker?] using ht)]
    exact h
  · rename_i wid r hj
    rw [streams_stepRobotIds (by simpa [Task.streams, hj, Job.streamWorker?] using ht)]
    exact h
  · rename_i r hj
    rw [streams_stepReconciler (by simpa [Task.streams, hj, Job.streamWorker?] using ht)]
    exact h
  · exact h

/-! ### Runs -/

/-- What can happen to a world, as far as the workers' streams go: a step of any task, the
    session starting a worker, or anything that leaves the view as it is (the session sending
    commands, pushing to the feed, cancelling a worker, waiting; the clock moving). -/
inductive StreamMove : World → World → Prop
  | step (w : World) (t : TaskId) : StreamMove w (w.step t).1
  | spawnWorker (w : World) (s : Symbol) (robots : List Robot) (parent : Nat) :
      StreamMove w (w.spawnWorker s robots parent).1
  | calm {w w' : World} : w'.streams = w.streams → StreamMove w w'

theorem StreamMove.sound {w w' : World} (hm : StreamMove w w') (h : w.streams.Sound) :
    w'.streams.Sound := by
  cases hm with
  | step t => exact sound_step h t
  | spawnWorker s robots parent => exact sound_spawnWorker h s robots parent
  | calm he =>
    rw [he]
    exact h

/-- **Every run keeps every worker in order.** -/
theorem sound_of_reaches {w w' : World} (hr : Relation.ReflTransGen StreamMove w w')
    (h : w.streams.Sound) : w'.streams.Sound := by
  induction hr with
  | refl => exact h
  | tail _ hm ih => exact hm.sound ih

theorem reaches_poll (w : World) (t : TaskId) (fuel : Nat) :
    Relation.ReflTransGen StreamMove w (w.poll t fuel) := by
  induction fuel generalizing w with
  | zero => exact .refl
  | succ n ih =>
    have hm := StreamMove.step w t
    rcases hs : w.step t with ⟨w', more⟩
    rw [hs] at hm
    simp only [poll, hs]
    split
    · exact .head hm (ih w')
    · exact .single hm

theorem reaches_runBatch (w : World) (n : Nat) :
    Relation.ReflTransGen StreamMove w (w.runBatch n).1 := by
  induction n generalizing w with
  | zero => exact .refl
  | succ n ih =>
    simp only [runBatch]
    split
    · exact .refl
    · rename_i t rest _
      -- the task is taken off the queue with a fresh budget, then run
      have hm : StreamMove w { w with runQueue := rest, budget := runBudget } := .calm rfl
      exact .head hm ((reaches_poll _ t stepLimit).trans (ih _))

/-- **The scheduler's run is a run**: batch after batch of task steps, with the clock moving and
    the timers firing in between. -/
theorem reaches_block (w : World) (fuel : Nat) :
    Relation.ReflTransGen StreamMove w (w.block fuel) := by
  induction fuel generalizing w with
  | zero => exact .single (.calm rfl)
  | succ n ih =>
    simp only [block]
    rcases hb : w.runBatch batchSize with ⟨w', emptied⟩
    have hr := reaches_runBatch w batchSize
    rw [hb] at hr
    -- the timers fire and the deferred tasks are woken: the view is as it was
    have hc : StreamMove w' ((if emptied then w'.park else w'.fireDue).wakeDeferred) :=
      .calm (by split <;> simp)
    generalize (if emptied then w'.park else w'.fireDue).wakeDeferred = w₂ at hc ⊢
    split
    · exact hr.tail hc
    split
    · exact (hr.tail hc).tail (.calm rfl)
    · exact (hr.tail hc).trans (ih _)

end World

end RobotTrading
