import RobotTrading.Proofs.Engine.Streaming

/-!
# Every step keeps the workers in order

`StreamView.Sound` says that every worker stands with its readers as `Streamed`
says. Every step of every task keeps it, and so does the session starting a
worker; what else the session does leaves the view as it is.

A step changes one worker at most: the one whose control task or reader takes
it, or the one the hub starts. The other workers see at most streams losing
their reader or being opened (`StreamView.Local`). So each step is shown to keep
`Streamed` for its own worker, through the changes of the previous module, and
`StreamView.Sound.of_local` does the rest.

## Main statements

* `World.of_finish`, `World.of_setJob`, ... : one worker's share of each operation.
* `World.sound_endReader`, `World.sound_fanOut`, `World.sound_stepReader` : a reader's steps.
-/

namespace RobotTrading

/-- The role a task has once it ended. -/
def Role.finish : Role → Role
  | .other => .other
  | .control p _ a => .control p true a
  | .reader _ a => .reader true a

/-- The role a task has once aborted. -/
def Role.abort : Role → Role
  | .other => .other
  | .control p d _ => .control p d true
  | .reader d _ => .reader d true

namespace StreamView

variable {v v' v'' : StreamView} {wid : Nat}

/-- Every worker stands with its readers as `Streamed` says. -/
def Sound (v : StreamView) : Prop := ∀ wid, Streamed (v.of wid)

/-- `v'` changes no worker but `wid`, except by streams losing their reader or being opened. -/
def Local (wid : Nat) (v v' : StreamView) : Prop :=
  ∀ j, j ≠ wid → (v.of j).Outside (v'.of j)

theorem Local.refl (wid : Nat) (v : StreamView) : Local wid v v := fun _ _ => .refl _

theorem Local.trans (h : Local wid v v') (h' : Local wid v' v'') : Local wid v v'' :=
  fun j hj => (h j hj).trans (h' j hj)

theorem Local.of_eq (h : v' = v) : Local wid v v' := h ▸ .refl wid v

/-- A change that keeps every other worker in order keeps all of them once it keeps `wid`. -/
theorem Sound.of_local (h : v.Sound) (hl : Local wid v v') (hw : Streamed (v'.of wid)) :
    v'.Sound := by
  intro j
  by_cases hj : j = wid
  · subst hj
    exact hw
  · exact (h j).frame (hl j hj)

/-- The view of a task that names worker `wid` or none. -/
def Mine (wid : Nat) (x : Option (Job × Bool × Bool)) : Prop := ∀ j, j ≠ wid → roleOf j x = .other

theorem mine_none : Mine wid none := fun _ _ => rfl

theorem mine_some {j : Job} (h : ∀ w, j.streamWorker? = some w → w = wid) (d a : Bool) :
    Mine wid (some (j, d, a)) := by
  intro j' hj'
  cases j with
  | worker w p => simp [roleOf, Ne.symm (h w rfl ▸ hj')]
  | reader w tok p => simp [roleOf, Ne.symm (h w rfl ▸ hj')]
  | _ => rfl

theorem roleOf_finish (e : Option (Job × Bool × Bool)) :
    roleOf wid (e.map fun x => (x.1, true, x.2.2)) = (roleOf wid e).finish := by
  rcases e with _ | ⟨j, d, a⟩
  · rfl
  · -- only the loops and readers of a worker have a role to change
    cases j with
    | worker w p => simp only [roleOf, Option.map_some]; split_ifs <;> rfl
    | reader w tok p => simp only [roleOf, Option.map_some]; split_ifs <;> rfl
    | _ => rfl

theorem holdsOf_finish (e : Option (Job × Bool × Bool)) :
    holdsOf wid (e.map fun x => (x.1, true, x.2.2)) = holdsOf wid e := by
  rcases e with _ | ⟨j, d, a⟩
  · rfl
  · cases j <;> rfl

theorem roleOf_abort (e : Option (Job × Bool × Bool)) :
    roleOf wid (e.map fun x => (x.1, x.2.1, true)) = (roleOf wid e).abort := by
  rcases e with _ | ⟨j, d, a⟩
  · rfl
  · cases j with
    | worker w p => simp only [roleOf, Option.map_some]; split_ifs <;> rfl
    | reader w tok p => simp only [roleOf, Option.map_some]; split_ifs <;> rfl
    | _ => rfl

theorem Mine.finish {e : Option (Job × Bool × Bool)} (h : Mine wid e) :
    Mine wid (e.map fun x => (x.1, true, x.2.2)) := fun j hj => by
  rw [roleOf_finish, h j hj]
  rfl

theorem Mine.abort {e : Option (Job × Bool × Bool)} (h : Mine wid e) :
    Mine wid (e.map fun x => (x.1, x.2.1, true)) := fun j hj => by
  rw [roleOf_abort, h j hj]
  rfl

theorem Local.setTask {t : TaskId} {x : Option (Job × Bool × Bool)} (hold : Mine wid (v.tasks t))
    (hnew : Mine wid x) : Local wid v (v.setTask t x) := fun j hj => by
  rw [of_setTask_of_other _ _ (hold j hj) (hnew j hj)]

theorem Local.setWorker (v : StreamView) (k : Option WorkerStreams) :
    Local wid v (v.setWorker wid k) := fun j hj => by
  rw [of_setWorker_of_ne _ _ (Ne.symm hj)]

theorem Local.closeStream (v : StreamView) (i : Nat) : Local wid v (v.closeStream i) :=
  fun j _ => by
    rw [of_closeStream]
    exact .closeStream _ i

theorem Local.openStream (v : StreamView) : Local wid v v.openStream := fun j _ => by
  rw [of_openStream]
  exact .openStream _

end StreamView

namespace WorkerView

variable {u : WorkerView}

/-- Setting a task to the role and stream it has changes nothing. -/
theorem setTask_self (u : WorkerView) (x : TaskId) : u.setTask x (u.role x) (u.holds x) = u := by
  ext1
  · exact Function.update_eq_self x u.role
  · exact Function.update_eq_self x u.holds
  all_goals rfl

end WorkerView

namespace StreamView

variable {wid tok : Nat} {ph : ReaderPhase} {p : WorkerPhase} {d a : Bool}

@[simp] theorem roleOf_reader_self : roleOf wid (some (.reader wid tok ph, d, a)) = .reader d a := by
  simp [roleOf]

@[simp] theorem holdsOf_reader_self : holdsOf wid (some (.reader wid tok ph, d, a)) = ph.stream? := by
  simp [holdsOf]

@[simp] theorem roleOf_worker_self : roleOf wid (some (.worker wid p, d, a)) = .control p d a := by
  simp [roleOf]

@[simp] theorem holdsOf_worker : holdsOf wid (some (.worker wid p, d, a)) = none := rfl

theorem mine_reader : Mine wid (some (.reader wid tok ph, d, a)) :=
  mine_some (fun _ h => by cases h; rfl) d a

theorem mine_worker : Mine wid (some (.worker wid p, d, a)) :=
  mine_some (fun _ h => by cases h; rfl) d a

end StreamView

namespace World

open StreamView

variable {w : World} {wid tok i : Nat} {t : TaskId} {ph : ReaderPhase} {d a : Bool}

/-! ### One worker's share of each operation -/

@[simp] theorem streams_task_reader (tok : Nat) (ph : ReaderPhase) (jw : Option TaskId) :
    Task.streams ⟨.reader wid tok ph, d, jw, a⟩ = some (.reader wid tok ph, d, a) := rfl

@[simp] theorem streams_task_worker (p : WorkerPhase) (jw : Option TaskId) :
    Task.streams ⟨.worker wid p, d, jw, a⟩ = some (.worker wid p, d, a) := rfl

theorem present_of (w : World) (wid : Nat) :
    (w.streams.of wid).present = (w.worker? wid).isSome := by
  simp [StreamView.of, streams]

/-- A worker that the view holds has its record. -/
theorem exists_worker_of_present {w : World} {wid : Nat} (hp : (w.streams.of wid).present = true) :
    ∃ k, w.worker? wid = some k :=
  Option.isSome_iff_exists.1 ((present_of w wid).symm.trans hp)

theorem of_finish (w : World) (t : TaskId) (wid : Nat) :
    (w.finish t).streams.of wid =
      (w.streams.of wid).setTask t ((w.streams.of wid).role t).finish ((w.streams.of wid).holds t) := by
  rw [streams_finish, of_setTask, roleOf_finish, holdsOf_finish]
  rfl

theorem local_finish (h : Mine wid (w.streams.tasks t)) :
    Local wid w.streams (w.finish t).streams := by
  rw [streams_finish]
  exact .setTask h h.finish

/-- A task the view holds keeps its flags when its job changes. -/
theorem streams_setJob_of {j₀ j : Job} (ht : w.streams.tasks t = some (j₀, d, a))
    (hj : j.streamWorker?.isSome) :
    (w.setJob t j).streams = w.streams.setTask t (some (j, d, a)) := by
  rw [streams_setJob]
  congr 1
  cases hk : w.tasks[t]? with
  | none => simp [streams, hk] at ht
  | some k =>
    simp only [streams, hk, Option.bind_some, Task.streams] at ht ⊢
    split at ht
    · cases ht
      simp [hj]
    · cases ht

/-- Only the view of a world decides the view after a job changes. -/
theorem streams_setJob_congr {w' : World} {j₀ j : Job} (he : w'.streams = w.streams)
    (ht : w.streams.tasks t = some (j₀, d, a)) (hj : j.streamWorker?.isSome) :
    (w'.setJob t j).streams = (w.setJob t j).streams := by
  rw [streams_setJob_of (he ▸ ht) hj, streams_setJob_of ht hj, he]

theorem local_setJob {j₀ j : Job} (ht : w.streams.tasks t = some (j₀, d, a))
    (hj : j.streamWorker?.isSome) (h₀ : Mine wid (some (j₀, d, a))) (h₁ : Mine wid (some (j, d, a))) :
    Local wid w.streams (w.setJob t j).streams := by
  rw [streams_setJob_of ht hj]
  exact .setTask (ht ▸ h₀) h₁

@[simp] theorem streams_modifyWorker_tasks (f : Worker → Worker) :
    (w.modifyWorker wid f).streams.tasks = w.streams.tasks := rfl

@[simp] theorem streams_modifyWorker_isOpen (f : Worker → Worker) :
    (w.modifyWorker wid f).streams.isOpen = w.streams.isOpen := rfl

@[simp] theorem streams_modifyWorker_streamCount (f : Worker → Worker) :
    (w.modifyWorker wid f).streams.streamCount = w.streams.streamCount := rfl

theorem local_modifyWorker (f : Worker → Worker) :
    Local wid w.streams (w.modifyWorker wid f).streams := by
  rw [streams_modifyWorker]
  exact .setWorker _ _

theorem of_modifyWorker_streaming (hp : (w.streams.of wid).present = true) (b : Bool) :
    (w.modifyWorker wid fun k => { k with streaming := b }).streams.of wid =
      { w.streams.of wid with streaming := b } := by
  obtain ⟨k, hk⟩ := exists_worker_of_present hp
  rw [streams_modifyWorker]
  ext1
  -- the fields read off the worker's record; the rest do not look at it
  case present | streaming | reader | task | clients =>
    simp [StreamView.of, streams, hk, Worker.streams]
  all_goals rfl

theorem of_modifyWorker_clients (hp : (w.streams.of wid).present = true) (cs : List Client) :
    (w.modifyWorker wid fun k => { k with clients := cs }).streams.of wid =
      { w.streams.of wid with clients := cs } := by
  obtain ⟨k, hk⟩ := exists_worker_of_present hp
  rw [streams_modifyWorker]
  ext1
  case present | streaming | reader | task | clients =>
    simp [StreamView.of, streams, hk, Worker.streams]
  all_goals rfl

theorem of_modifyWorker_reader (hp : (w.streams.of wid).present = true) (r : Option TaskId) :
    (w.modifyWorker wid fun k => { k with reader := r }).streams.of wid =
      { w.streams.of wid with reader := r } := by
  obtain ⟨k, hk⟩ := exists_worker_of_present hp
  rw [streams_modifyWorker]
  ext1
  case present | streaming | reader | task | clients =>
    simp [StreamView.of, streams, hk, Worker.streams]
  all_goals rfl

theorem of_setJob_of {j₀ j : Job} (ht : w.streams.tasks t = some (j₀, d, a))
    (hj : j.streamWorker?.isSome) :
    (w.setJob t j).streams.of wid =
      (w.streams.of wid).setTask t (roleOf wid (some (j, d, a))) (holdsOf wid (some (j, d, a))) := by
  rw [streams_setJob_of ht hj, of_setTask]

theorem of_spawn (w : World) (j : Job) (wid : Nat) :
    (w.spawn j).1.streams.of wid = (w.streams.of wid).setTask w.tasks.size
      (roleOf wid (Task.streams ⟨j, false, none, false⟩))
      (holdsOf wid (Task.streams ⟨j, false, none, false⟩)) := by
  rw [streams_spawn, of_setTask]

theorem local_spawn {j : Job} (hj : Mine wid (Task.streams ⟨j, false, none, false⟩)) :
    Local wid w.streams (w.spawn j).1.streams := by
  rw [streams_spawn]
  exact .setTask (by rw [streams_tasks_size]; exact mine_none) hj

theorem tasks_dropStream (w : World) (i : Nat) : (w.dropStream i).streams.tasks = w.streams.tasks := by
  rw [streams_dropStream]
  split <;> rfl

theorem sound_dropStream (h : w.streams.Sound) (i : Nat) : (w.dropStream i).streams.Sound := by
  rw [streams_dropStream]
  split
  · exact fun j => by
      rw [of_closeStream]
      exact (h j).closeStream i
  · exact h

theorem of_dropStream (hi : i < w.streams.streamCount) :
    (w.dropStream i).streams.of wid = (w.streams.of wid).closeStream i := by
  rw [streams_dropStream, if_pos hi, of_closeStream]

/-! ### A reader's steps -/

theorem role_of_reader (ht : w.streams.tasks t = some (.reader wid tok ph, d, a)) :
    (w.streams.of wid).role t = .reader d a := by
  simp [StreamView.of, ht]

theorem holds_of_reader (ht : w.streams.tasks t = some (.reader wid tok ph, d, a)) :
    (w.streams.of wid).holds t = ph.stream? := by
  simp [StreamView.of, ht]

/-- The stream a reader holds was made by the feed. -/
theorem held_lt (h : w.streams.Sound) (ht : w.streams.tasks t = some (.reader wid tok ph, d, a))
    (hi : ph.stream? = some i) : i < w.streams.streamCount :=
  ((h wid).owned t i ((holds_of_reader ht).trans hi)).2

/-- **A reader moves to another phase.** -/
theorem sound_setReaderJob (h : w.streams.Sound)
    (ht : w.streams.tasks t = some (.reader wid tok ph, false, false)) (ph' : ReaderPhase)
    (hb : ∀ i, ph'.stream? = some i → i < w.streams.streamCount) :
    (w.setJob t (.reader wid tok ph')).streams.Sound := by
  refine h.of_local (local_setJob ht rfl mine_reader mine_reader) ?_
  rw [streams_setJob_of ht rfl, of_setTask, roleOf_reader_self, holdsOf_reader_self]
  exact (h wid).setReader (role_of_reader ht) false false ph'.stream? (fun _ => rfl) id hb
    (fun h => absurd h (by simp))

/-- **A reader comes down**, or is dropped where it stood, after letting its stream go; the
    worker's flag stays as it was. -/
theorem sound_finishReader (h : w.streams.Sound)
    (ht : w.streams.tasks t = some (.reader wid tok ph, false, a))
    (hc : ∀ i, ph.stream? = some i → w.streams.isOpen i = false) : (w.finish t).streams.Sound := by
  refine h.of_local (local_finish (ht ▸ mine_reader)) ?_
  rw [of_finish, role_of_reader ht, holds_of_reader ht]
  exact (h wid).setReader (role_of_reader ht) true a ph.stream? (fun h => absurd h (by simp)) id
    (fun i hi => held_lt h ht hi) (fun _ => hc)

/-- **A reader ends** after letting its stream go, and the worker stops counting as streaming. -/
theorem sound_clearFinish (h : w.streams.Sound)
    (ht : w.streams.tasks t = some (.reader wid tok ph, false, false))
    (hc : ∀ i, ph.stream? = some i → w.streams.isOpen i = false)
    (hp : (w.streams.of wid).present = true) :
    ((w.modifyWorker wid fun k => { k with streaming := false }).finish t).streams.Sound := by
  have hm : Mine wid ((w.modifyWorker wid fun k => { k with streaming := false }).streams.tasks t) := by
    rw [streams_modifyWorker, StreamView.setWorker_tasks, ht]
    exact mine_reader
  refine h.of_local ((local_modifyWorker _).trans (local_finish hm)) ?_
  rw [of_finish, of_modifyWorker_streaming hp]
  show Streamed ({ w.streams.of wid with streaming := false }.setTask t
    ((w.streams.of wid).role t).finish ((w.streams.of wid).holds t))
  rw [role_of_reader ht]
  exact (h wid).endReader (role_of_reader ht) fun i hi => hc i ((holds_of_reader ht).symm.trans hi)

theorem isOpen_dropStream (hi : i < w.streams.streamCount) :
    (w.dropStream i).streams.isOpen i = false := by
  rw [streams_dropStream, if_pos hi]
  simp

/-- **A reader ends**: its stream is dropped, the worker stops counting as streaming, and the
    task ends. -/
theorem sound_endReader (h : w.streams.Sound)
    (ht : w.streams.tasks t = some (.reader wid tok ph, false, false)) (tok' : Nat) :
    (w.endReader t wid tok' ph.stream?).1.streams.Sound := by
  have hp := (h wid).present_of_reader (role_of_reader ht)
  cases hs : ph.stream? with
  | none =>
    exact sound_clearFinish (w := w.unwatch tok' t) (by simpa using h) (by simpa using ht)
      (by simp [hs]) (by simpa using hp)
  | some i =>
    have hi := held_lt h ht hs
    -- the stream is let go first
    have hd : ((w.unwatch tok' t).dropStream i).streams.of wid =
        ((w.unwatch tok' t).streams.of wid).closeStream i := of_dropStream hi
    refine sound_clearFinish (w := (w.unwatch tok' t).dropStream i) (sound_dropStream (by simpa using h) i)
      (by rw [tasks_dropStream]; simpa using ht) (fun j hj => ?_) (by rw [hd]; simpa using hp)
    cases hs.symm.trans hj
    exact isOpen_dropStream hi

/-- **The worker's clients change** while its control task has not ended. -/
theorem sound_modifyClients_of (h : w.streams.Sound) (hp : (w.streams.of wid).present = true)
    (hne : ∀ p, (w.streams.of wid).role (w.streams.of wid).task ≠ .control p true false)
    (cs : List Client) : (w.modifyWorker wid fun k => { k with clients := cs }).streams.Sound := by
  refine h.of_local (local_modifyWorker _) ?_
  rw [of_modifyWorker_clients hp]
  exact (h wid).setClients cs hne

/-- A reader that runs changes the clients: the control task has not ended, since a worker
    whose control task ended has no reader running unaborted. -/
theorem sound_modifyClients (h : w.streams.Sound)
    (ht : w.streams.tasks t = some (.reader wid tok ph, false, false)) (cs : List Client) :
    (w.modifyWorker wid fun k => { k with clients := cs }).streams.Sound :=
  have hx := role_of_reader ht
  sound_modifyClients_of h ((h wid).present_of_reader hx)
    (fun p hp => (h wid).aborted p true hp (.inr rfl) t hx) cs

/-- Taking an item from a stream keeps its receiving end. -/
theorem Queue.receiverOpen_recv {α : Type} (q : Queue α) (t : TaskId) :
    (q.recv t).1.receiverOpen = q.receiverOpen := by
  unfold Queue.recv
  split
  · simp only [Queue.release]
    split <;> rfl
  · split <;> rfl

theorem streams_modifyStream_of {q : Queue FeedItem} {g : Queue FeedItem → Queue FeedItem}
    (hq : w.feed.streams[i]? = some q) (hg : (g q).receiverOpen = q.receiverOpen) :
    (w.modifyStream i g).streams = w.streams := by
  refine streams_eq_of (fun _ => rfl) (fun _ => rfl)
    (isOpen_modifyStream fun q' hq' => by rw [hq] at hq'; cases hq'; exact hg) ?_ rfl
  simp [modifyStream, ScriptedFeed.modifyStream]

/-- **A reader comes down on the spot**: it lets go of the lock and of its stream and ends, the
    worker still counting as streaming on it. So is an aborted reader dropped. -/
theorem sound_crashReader (h : w.streams.Sound)
    (ht : w.streams.tasks t = some (.reader wid tok ph, false, a)) (hs : ph.stream? = some i)
    (tok' : Nat) : (w.crashReader t wid tok' i).streams.Sound := by
  have hi : i < (w.leaveClients wid t).streams.streamCount := by simpa using held_lt h ht hs
  exact sound_finishReader (w := ((w.leaveClients wid t).dropStream i).unwatch tok' t)
    (by simpa using sound_dropStream (w := w.leaveClients wid t) (by simpa using h) i)
    (by simpa [tasks_dropStream] using ht) fun j hj => by
      cases hs.symm.trans hj
      simpa using isOpen_dropStream hi

/-- **A tick handed to the clients**, one after another: the reader goes back to reading, or
    hangs on a write, or comes down on an overflowing deal. -/
theorem sound_fanOut (hs : ph.stream? = some i) (x : PriceTick) (cs done : List Client)
    (h : w.streams.Sound) (ht : w.streams.tasks t = some (.reader wid tok ph, false, false)) :
    (fanOut t wid tok i x cs done w).1.streams.Sound := by
  induction cs generalizing done w with
  | nil =>
    have hi := held_lt h ht hs
    exact sound_setReaderJob (by simpa using sound_modifyClients h ht done.reverse)
      (by simpa using ht) (.reading i) fun j hj => by cases hj; simpa using hi
  | cons c rest ih =>
    simp only [fanOut]
    split
    · exact ih _ h ht
    · split
      · -- the write hangs: the reader stays where it is, with the lock
        have hi := held_lt h ht hs
        exact sound_setReaderJob (sound_modifyClients h ht _) ht (.hung i)
          fun j hj => by cases hj; simpa using hi
      · exact ih _ (by simpa using h) (by simpa using ht)
    · -- the deal overflows: the reader comes down on the spot
      exact sound_crashReader (sound_modifyClients h ht _) (by simpa using ht) hs tok

/-- **One step of a reader** that runs. -/
theorem sound_stepReader (h : w.streams.Sound)
    (ht : w.streams.tasks t = some (.reader wid tok ph, false, false)) :
    (w.stepReader t wid tok ph).1.streams.Sound := by
  have hp := (h wid).present_of_reader (role_of_reader ht)
  obtain ⟨k, hk⟩ := exists_worker_of_present hp
  unfold stepReader
  rw [hk]
  cases ph with
  | start =>
    dsimp only
    split
    · exact sound_endReader h ht tok
    -- the subscription makes a stream, or fails, or is refused
    generalize hsub : w.feed.subscribe k.symbol = r
    obtain ⟨f, g⟩ := r
    cases g with
    | stream i =>
      obtain ⟨rfl, he⟩ := streams_subscribe_stream w hsub
      have h₁ : ({ w with feed := f } : World).streams.Sound := fun j => by
        rw [he, of_openStream]
        exact (h j).openStream
      have ht₁ : ({ w with feed := f } : World).streams.tasks t =
          some (.reader wid tok .start, false, false) := by rw [he]; exact ht
      dsimp only
      exact sound_setReaderJob h₁ ht₁ (.reading _) fun j hj => by
        cases hj
        simp [he]
    | failed =>
      have he := streams_subscribe_of_ne w hsub fun _ => nofun
      have h₁ : ({ w with feed := f } : World).streams.Sound := by rw [he]; exact h
      have ht₁ : ({ w with feed := f } : World).streams.tasks t =
          some (.reader wid tok .start, false, false) := by rw [he]; exact ht
      dsimp only
      exact sound_endReader h₁ ht₁ tok
    | refused =>
      have he := streams_subscribe_of_ne w hsub fun _ => nofun
      have h₁ : ({ w with feed := f } : World).streams.Sound := by rw [he]; exact h
      have ht₁ : ({ w with feed := f } : World).streams.tasks t =
          some (.reader wid tok .start, false, false) := by rw [he]; exact ht
      dsimp only
      exact sound_finishReader (w := ({ w with feed := f } : World).unwatch tok t) h₁ ht₁ nofun
  | reading i =>
    dsimp only
    split
    · exact sound_endReader h ht tok
    split
    · simpa using h
    split
    · exact sound_endReader h ht tok
    rename_i q hq
    -- taking an item keeps the stream's receiving end
    set w₁ := (w.modifyStream i fun _ => (q.recv t).1).wakeAll (q.recv t).2.2
    have he : w₁.streams = w.streams := by
      rw [streams_wakeAll, streams_modifyStream_of hq (Queue.receiverOpen_recv q t)]
    have h₁ : w₁.streams.Sound := by rw [he]; exact h
    have ht₁ : w₁.streams.tasks t = some (.reader wid tok (.reading i), false, false) := by
      rw [he]; exact ht
    split
    · refine sound_setReaderJob (w := (w₁.unwatch tok t).spend) h₁ ht₁ (.fanning i _) fun j hj => ?_
      cases hj
      rw [streams_spend, streams_unwatch, he]
      exact held_lt h ht rfl
    · exact sound_endReader h₁ ht₁ tok
    · exact sound_endReader h₁ ht₁ tok
    · rw [streams_watch]; exact h₁
  | fanning i x =>
    dsimp only
    split
    · exact sound_setReaderJob h ht (.reading i) fun j hj => by
        cases hj
        exact held_lt h ht rfl
    split
    · simpa using h
    split
    · exact sound_fanOut rfl x _ [] (by simpa using h) (by simpa using ht)
    · simpa using h
  | hung i => exact h

end World

end RobotTrading
