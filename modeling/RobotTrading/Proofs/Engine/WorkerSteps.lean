import RobotTrading.Proofs.Engine.StreamSteps

/-!
# The control task's steps keep the workers in order

A worker's control task opens the first reader, then takes commands and applies
them under the client lock, opening a new reader when the stream died and
resubscription is on. Once cancelled it waits for its reader, aborts it after
the grace period, clears its clients under the lock and ends. Each of these
steps keeps `StreamView.Sound`.

## Main statements

* `World.sound_setControlJob` : the control task moves to another phase.
* `World.of_startReader`, `World.sound_startReader` : it opens a reader and goes idle.
* `World.sound_applyCommand` : it applies a command.
* `World.sound_abortReader` : it aborts its reader.
* `World.sound_endControl` : it ends, its clients cleared.
* `World.sound_stepWorker` : one step of the control task.
-/

namespace RobotTrading

namespace StreamView

/-- A task that is a reader to worker `wid` has a reader's view. -/
theorem roleOf_eq_reader {wid : Nat} {e : Option (Job × Bool × Bool)} {d a : Bool}
    (h : roleOf wid e = .reader d a) : ∃ tok ph, e = some (.reader wid tok ph, d, a) := by
  rcases e with _ | ⟨j, d', a'⟩
  · cases h
  · cases j with
    | reader w tok ph =>
      simp only [roleOf] at h
      split_ifs at h with hw
      cases h
      exact ⟨tok, ph, by rw [hw]⟩
    | worker w p =>
      simp only [roleOf] at h
      split_ifs at h
    | _ => cases h

end StreamView

namespace World

open StreamView

variable {w : World} {wid tok : Nat} {t r : TaskId} {p : WorkerPhase} {d a : Bool}

theorem role_of_worker (ht : w.streams.tasks t = some (.worker wid p, d, a)) :
    (w.streams.of wid).role t = .control p d a := by
  simp [StreamView.of, ht]

theorem holds_of_worker (ht : w.streams.tasks t = some (.worker wid p, d, a)) :
    (w.streams.of wid).holds t = none := by
  simp [StreamView.of, ht]

/-- The task running a worker's loop is the control task its record names. -/
theorem task_of_worker (h : w.streams.Sound) (ht : w.streams.tasks t = some (.worker wid p, d, a)) :
    t = (w.streams.of wid).task :=
  (h wid).controlOf t p d a (role_of_worker ht)

theorem control_of_worker (h : w.streams.Sound)
    (ht : w.streams.tasks t = some (.worker wid p, d, a)) :
    (w.streams.of wid).role (w.streams.of wid).task = .control p d a := by
  rw [← task_of_worker h ht]
  exact role_of_worker ht

theorem reader_of {k : Worker} (hk : w.worker? wid = some k) :
    (w.streams.of wid).reader = k.reader := by
  simp [StreamView.of, streams, hk, Worker.streams]

theorem isDone_of_tasks {j : Job} (ht : w.streams.tasks r = some (j, d, a)) : w.isDone r = d := by
  cases hk : w.tasks[r]? with
  | none => simp [streams, hk] at ht
  | some k =>
    simp only [streams, hk, Option.bind_some, Task.streams] at ht
    split at ht
    · cases ht
      simp [isDone, hk]
    · cases ht

/-- **The control task moves to another phase**, neither its start nor its end; by the time it
    clears its clients, no reader runs unaborted. Steps that leave the view as it is may come
    first. -/
theorem sound_setControlJob (h : w.streams.Sound)
    (ht : w.streams.tasks t = some (.worker wid p, false, false)) (hp : p ≠ .start)
    (p' : WorkerPhase) (hp' : p' ≠ .start)
    (hab : p' = .clearing → ∀ y, (w.streams.of wid).role y ≠ .reader false false)
    {w' : World} (he : w'.streams = w.streams) :
    (w'.setJob t (.worker wid p')).streams.Sound := by
  have htask := task_of_worker h ht
  rw [streams_setJob_congr he ht rfl]
  refine h.of_local (local_setJob ht rfl mine_worker mine_worker) ?_
  rw [of_setJob_of ht rfl, roleOf_worker_self, holdsOf_worker, htask]
  exact (h wid).setControl (control_of_worker h ht) hp p' false hp'
    (fun hc => hab (hc.resolve_right Bool.false_ne_true)) (fun hc => absurd hc Bool.false_ne_true)

/-- **The control task leaves its loop**: it cancels its token and starts waiting for its
    reader. -/
theorem sound_beginStop (h : w.streams.Sound)
    (ht : w.streams.tasks t = some (.worker wid p, false, false)) (hp : p ≠ .start)
    {w' : World} (he : w'.streams = w.streams) (tok : Nat) :
    (w'.beginStop t wid tok).1.streams.Sound :=
  sound_setControlJob h ht hp (.stopping _) nofun nofun (by simp [he])

/-- The control task changes the clients while it runs. -/
theorem sound_modifyClients_control (h : w.streams.Sound)
    (ht : w.streams.tasks t = some (.worker wid p, false, false)) (cs : List Client) :
    (w.modifyWorker wid fun k => { k with clients := cs }).streams.Sound :=
  have hx := control_of_worker h ht
  sound_modifyClients_of h ((h wid).present_of_control hx)
    (fun q hq => by rw [hx] at hq; cases hq) cs

/-- Opening a reader: the worker counts as streaming, and its next task is its current reader, not
    yet subscribed. -/
theorem of_startReader (hp : (w.streams.of wid).present = true) :
    (w.startReader wid).streams.of wid =
      { ({ w.streams.of wid with streaming := true }.setTask w.tasks.size (.reader false false)
        none) with reader := some w.tasks.size } := by
  obtain ⟨k, hk⟩ := exists_worker_of_present hp
  set w₁ := w.modifyWorker wid fun k => { k with streaming := true }
  set w₃ := ((w₁.newToken (some k.token)).1.spawn
    (.reader wid (w₁.newToken (some k.token)).2 .start)).1
  have hw : w.startReader wid =
      w₃.modifyWorker wid fun k => { k with reader := some w.tasks.size } := by
    simp only [startReader, hk]
    rfl
  have hp₃ : (w₃.streams.of wid).present = true := by
    rw [of_spawn, streams_newToken, of_modifyWorker_streaming hp]
    exact hp
  rw [hw, of_modifyWorker_reader hp₃, of_spawn, streams_newToken, of_modifyWorker_streaming hp,
    streams_task_reader, roleOf_reader_self, holdsOf_reader_self]
  rfl

/-- **A reader is opened** under the worker's token, the worker counting as streaming from then
    on, and the control task goes idle. No reader runs before, and without resubscription
    none ever ran. -/
theorem sound_startReader (h : w.streams.Sound)
    (ht : w.streams.tasks t = some (.worker wid p, false, false))
    (hno : ∀ y a, (w.streams.of wid).role y ≠ .reader false a)
    (hre : w.streams.resubscribe = false → ∀ y d a, (w.streams.of wid).role y ≠ .reader d a)
    {w' : World} (he : w'.streams = (w.startReader wid).streams) :
    (w'.setJob t (.worker wid .idle)).streams.Sound := by
  have htask := task_of_worker h ht
  have hx := control_of_worker h ht
  have hp := (h wid).present_of_control hx
  obtain ⟨k, hk⟩ := exists_worker_of_present hp
  -- the new reader is the next task
  have hts : t ≠ w.tasks.size := fun hts => by
    rw [hts, streams_tasks_size] at ht
    cases ht
  set w₁ := w.modifyWorker wid fun k => { k with streaming := true }
  set tok := (w₁.newToken (some k.token)).2
  set w₃ := ((w₁.newToken (some k.token)).1.spawn (.reader wid tok .start)).1
  have hw : w.startReader wid = w₃.modifyWorker wid fun k => { k with reader := some w.tasks.size } := by
    simp only [startReader, hk]
    rfl
  have ht' : w'.streams.tasks t = some (.worker wid p, false, false) := by
    rw [he, hw, streams_modifyWorker_tasks, streams_spawn, StreamView.setTask_tasks]
    exact (Function.update_of_ne hts _ _).trans ht
  have hl : Local wid w.streams w'.streams := by
    rw [he, hw]
    refine (local_modifyWorker _).trans (Local.trans (.of_eq (streams_newToken w₁ (some k.token))) ?_)
    refine (local_spawn ?_).trans (local_modifyWorker _)
    rw [streams_task_reader]
    exact mine_reader
  refine h.of_local (hl.trans (local_setJob ht' rfl mine_worker mine_worker)) ?_
  rw [of_setJob_of ht' rfl, he, of_startReader hp, roleOf_worker_self, holdsOf_worker, htask]
  exact (h wid).startReader hx (by simp [StreamView.of, streams_tasks_size, roleOf]) hno hre

/-- A dead worker counts as not streaming. -/
theorem streaming_of_dead (h : ((w.worker? wid).map fun k => !k.streaming).getD false = true) :
    (w.streams.of wid).streaming = false := by
  cases hk : w.worker? wid with
  | none => simp [hk] at h
  | some k =>
    simp only [hk, Option.map_some, Option.getD_some, Bool.not_eq_eq_eq_not, Bool.not_true] at h
    simp [StreamView.of, streams, hk, Worker.streams, h]

/-- A worker that is not dead counts as streaming. -/
theorem streaming_of_live (hp : (w.streams.of wid).present = true)
    (h : ((w.worker? wid).map fun k => !k.streaming).getD false = false) :
    (w.streams.of wid).streaming = true := by
  obtain ⟨k, hk⟩ := exists_worker_of_present hp
  simp only [hk, Option.map_some, Option.getD_some, Bool.not_eq_eq_eq_not, Bool.not_false] at h
  simp [StreamView.of, streams, hk, Worker.streams, h]

/-- Applying a command, as the workers' streams see it: the clients change under the lock, and
    a reader is opened if the stream died and resubscription is on. -/
theorem streams_applyCommand {k : Worker} (hk : w.worker? wid = some k) (c : WorkerCommand)
    (tok : Nat) :
    ((w.applyCommand wid c).unwatch tok t).streams =
      (let w₁ := (w.modifyWorker wid fun k' =>
          { k' with clients := (attachClients w.settings.policy k.clients c.robots).1 }).unlockClients wid
        if w₁.settings.resubscribe && ((w₁.worker? wid).map fun k : Worker => !k.streaming).getD false
        then w₁.startReader wid else w₁).streams := by
  rw [streams_unwatch]
  simp only [applyCommand, hk]
  cases c.ack <;> simp only [streams_answer]

/-- **A command is applied** under the client lock: the clients change, a reader is opened if
    the stream died and resubscription is on, and the control task goes idle. -/
theorem sound_applyCommand (h : w.streams.Sound) {c : WorkerCommand}
    (ht : w.streams.tasks t = some (.worker wid (.applying c), false, false)) (tok : Nat) :
    (((w.applyCommand wid c).unwatch tok t).setJob t (.worker wid .idle)).streams.Sound := by
  have hp := (h wid).present_of_control (control_of_worker h ht)
  obtain ⟨k, hk⟩ := exists_worker_of_present hp
  set w₁ := (w.modifyWorker wid fun k' =>
    { k' with clients := (attachClients w.settings.policy k.clients c.robots).1 }).unlockClients wid
  have h₁ : w₁.streams.Sound := by
    simpa [w₁] using sound_modifyClients_control h ht _
  have ht₁ : w₁.streams.tasks t = some (.worker wid (.applying c), false, false) := by
    simpa [w₁] using ht
  have he := streams_applyCommand (t := t) hk c tok
  dsimp only at he
  by_cases hd : (w₁.settings.resubscribe &&
      ((w₁.worker? wid).map fun k : Worker => !k.streaming).getD false) = true
  · rw [if_pos hd] at he
    simp only [Bool.and_eq_true] at hd
    exact sound_startReader h₁ ht₁ ((h₁ wid).flagOff (streaming_of_dead hd.2))
      (fun hre => absurd hre (by simp [streams, hd.1])) he
  · rw [if_neg hd] at he
    exact sound_setControlJob h₁ ht₁ (by rintro ⟨⟩) .idle (by rintro ⟨⟩) (by rintro ⟨⟩) he

/-- **A reader is aborted** before it ended. -/
theorem streams_abort_reader {ph : ReaderPhase}
    (hr : w.streams.tasks r = some (.reader wid tok ph, false, a)) :
    (w.abort r).streams = w.streams.setTask r (some (.reader wid tok ph, false, true)) := by
  rw [streams_abort, if_neg (by rw [isDone_of_tasks hr]; exact Bool.false_ne_true), hr]
  rfl

theorem sound_abortReader {ph : ReaderPhase} (h : w.streams.Sound)
    (hr : w.streams.tasks r = some (.reader wid tok ph, false, a)) : (w.abort r).streams.Sound := by
  refine h.of_local (by rw [streams_abort_reader hr]; exact .setTask (hr ▸ mine_reader) mine_reader) ?_
  rw [streams_abort_reader hr, of_setTask, roleOf_reader_self, holdsOf_reader_self,
    ← holds_of_reader hr]
  exact (h wid).setReader (role_of_reader hr) false true _ (fun _ => rfl) (fun _ => rfl)
    (fun i hi => ((h wid).owned r i hi).2) (fun h => absurd h Bool.false_ne_true)

/-- **The control task ends**, its clients cleared; no reader of it runs unaborted. -/
theorem sound_endControl (h : w.streams.Sound)
    (ht : w.streams.tasks t = some (.worker wid .clearing, false, false))
    (hc : (w.streams.of wid).clients = []) : (w.finish t).streams.Sound := by
  have htask := task_of_worker h ht
  have hx := control_of_worker h ht
  refine h.of_local (local_finish (ht ▸ mine_worker)) ?_
  rw [of_finish, role_of_worker ht, holds_of_worker ht, htask]
  exact (h wid).setControl hx nofun .clearing true nofun
    (fun _ => (h wid).aborted .clearing false hx (.inl rfl)) (fun _ => hc)

theorem streams_endWorker (w : World) (t : TaskId) (wid : Nat) :
    (w.endWorker t wid).1.streams = (w.finish t).streams := by
  unfold endWorker
  split
  · rw [streams_finish, streams_finish]
    simp
  · rfl

/-- **One step of a worker's control task.** -/
theorem sound_stepWorker (h : w.streams.Sound)
    (ht : w.streams.tasks t = some (.worker wid p, false, false)) :
    (w.stepWorker t wid p).1.streams.Sound := by
  have hx := control_of_worker h ht
  have hp := (h wid).present_of_control hx
  obtain ⟨k, hk⟩ := exists_worker_of_present hp
  unfold stepWorker
  rw [hk]
  cases p with
  | start =>
    -- before its first run the worker has no reader
    have hst := (h wid).starting false hx
    exact sound_startReader h ht (fun y a => hst.2.2.2 y false a) (fun _ => hst.2.2.2) rfl
  | idle =>
    dsimp only
    split
    · exact sound_beginStop h ht nofun rfl k.token
    -- a command is taken from the queue, or the queue ended, or the task waits
    have he : ((w.modifyWorker wid fun k' => { k' with commands := (k.commands.recv t).1 }).wakeAll
        (k.commands.recv t).2.2).streams = w.streams := by simp
    split
    · exact sound_setControlJob h ht nofun (.applying _) nofun nofun (by simp [he])
    · exact sound_beginStop h ht nofun he k.token
    · simpa [he] using h
  | applying c =>
    dsimp only
    split
    · exact sound_beginStop h ht nofun (by simp) k.token
    split
    · exact sound_applyCommand (w := (w.lockClients wid t).1) (by simpa using h) (by simpa using ht)
        k.token
    · simpa using h
  | stopping deadline =>
    dsimp only
    have hrd := reader_of hk
    split
    · rename_i r hr
      -- the current reader is a reader of the worker
      obtain ⟨e, b, hre⟩ := (h wid).pointer r (hrd.trans hr)
      obtain ⟨tok', ph, hrt⟩ := roleOf_eq_reader hre
      split
      · -- it ended: no reader runs
        rename_i hdone
        rw [isDone_of_tasks hrt] at hdone
        subst hdone
        refine sound_setControlJob h ht nofun .clearing nofun (fun _ y hy => ?_) (by simp)
        rw [(h wid).eq_of_current hy (hrd.trans hr), hre] at hy
        cases hy
      split
      · -- the grace period is over: the reader is aborted
        rename_i hdone _
        rw [isDone_of_tasks hrt] at hdone
        simp only [Bool.not_eq_true] at hdone
        subst hdone
        have htr : t ≠ r := fun htr => by
          rw [htr, hrt] at ht
          cases ht
        have he := streams_abort_reader (w := w.disarm t) hrt
        have ht₁ : ((w.disarm t).abort r).streams.tasks t =
            some (.worker wid (.stopping deadline), false, false) := by
          rw [he, StreamView.setTask_tasks, Function.update_of_ne htr]
          exact ht
        refine sound_setControlJob (sound_abortReader (w := w.disarm t) h hrt) ht₁ nofun .clearing
          nofun (fun _ y hy => ?_) rfl
        rw [he, of_setTask] at hy
        obtain ⟨rfl, hb⟩ | ⟨hyr, hy⟩ := WorkerView.role_setTask_eq hy
        · simp at hb
        · exact hyr ((h wid).eq_of_current hy (hrd.trans hr))
      · simpa using h
    · -- no reader is current: none runs
      rename_i hr
      exact sound_setControlJob h ht nofun .clearing nofun (fun _ y hy => by
        have := ((h wid).current y false hy).symm.trans (hrd.trans hr)
        cases this) (by simp)
  | clearing =>
    dsimp only
    split
    · -- the lock is taken: the clients are cleared and the task ends
      set w₁ := ((w.lockClients wid t).1.modifyWorker wid fun k => { k with clients := [] }).unlockClients wid
      have h₁ : w₁.streams.Sound := by
        simpa [w₁] using sound_modifyClients_control (w := (w.lockClients wid t).1) (by simpa using h)
          (by simpa using ht) []
      have hc₁ : (w₁.streams.of wid).clients = [] := by
        simp only [w₁, streams_unlockClients]
        rw [of_modifyWorker_clients (by simpa using hp)]
      rw [streams_endWorker]
      exact sound_endControl h₁ (by simpa [w₁] using ht) hc₁
    · simpa using h

end World

end RobotTrading
