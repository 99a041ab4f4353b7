import RobotTrading.Proofs.Engine.Coherent.Reconciler

/-!
# Workers, stoppers and helpers keep the invariant

Every step of a worker's control task, of a task stopping a worker and of a
helper answering a worker's robots keeps `Coherent`. A worker leaves its loop,
closes its queue or has its token cancelled only once it is no longer
registered with a serving hub whose token stands: what drives it out is its own
cancelled token, which a registered worker of such a hub never has, or the end
of its queue's senders, which such a worker never sees.

## Main statements

* `Coherent.stepWorker`, `Coherent.stepStopper`, `Coherent.stepRobotIds` : a step of each kind.
* `Coherent.dropTask` : an aborted task dropped where it stands.
-/

namespace RobotTrading

namespace Queue

variable {α : Type} {q : Queue α} {t : TaskId}

theorem recv_item {x : α} (h : (q.recv t).2.1 = .item x) : q.items = x :: (q.recv t).1.items := by
  unfold recv at h ⊢
  split at h
  · rename_i y rest hq
    cases h
    simp [hq]
  · split at h <;> cases h

theorem recv_ended (h : (q.recv t).2.1 = .ended) : q.items = [] ∧ q.senderOpen = false := by
  unfold recv at h
  split at h
  · cases h
  · rename_i hq
    split at h
    · cases h
    · exact ⟨hq, by simpa using ‹¬q.senderOpen = true›⟩

end Queue

theorem Shape.setTask_of_none {s : Shape} {t : TaskId} (h : s.tasks t = none) : s.setTask t none = s := by
  ext1
  · exact Function.update_eq_self_iff.2 h.symm
  all_goals rfl

@[simp] theorem Worker.shape_token (k : Worker) : k.shape.token = k.token := rfl

namespace World

variable (w : World)

/-- Commands that ask for no answer are dropped without a trace. -/
theorem dropCommands_of_unanswered {cmds : List WorkerCommand} (h : ∀ c ∈ cmds, c.ack = none) :
    w.dropCommands cmds = w := by
  induction cmds generalizing w with
  | nil => rfl
  | cons c cmds ih =>
    have hc : c.ack = none := h c (by simp)
    simp only [dropCommands, List.foldl_cons, hc] at ih ⊢
    exact ih w fun c' hc' => h c' (List.mem_cons_of_mem _ hc')

@[simp] theorem shape_modifyWorker_streaming (wid : Nat) (b : Bool) :
    (w.modifyWorker wid fun k => { k with streaming := b }).shape = w.shape :=
  shape_modifyWorker_of _ _ fun _ _ => rfl

@[simp] theorem shape_modifyWorker_reader (wid : Nat) (r : Option TaskId) :
    (w.modifyWorker wid fun k => { k with reader := r }).shape = w.shape :=
  shape_modifyWorker_of _ _ fun _ _ => rfl

@[simp] theorem shape_modifyWorker_clients (wid : Nat) (cs : List Client) :
    (w.modifyWorker wid fun k => { k with clients := cs }).shape = w.shape :=
  shape_modifyWorker_of _ _ fun _ _ => rfl

variable {w} {j : Job} {d : Bool}

theorem worker?_of_shape {wid : Nat} {ks : WorkerShape} (h : w.shape.workers wid = some ks) :
    ∃ k, w.worker? wid = some k ∧ k.shape = ks :=
  Option.map_eq_some_iff.1 h

/-- A worker's queue changes in place. -/
theorem shape_modifyWorker_commands {wid : Nat} {k : Worker} (hk : w.worker? wid = some k)
    (q : Queue WorkerCommand) :
    (w.modifyWorker wid fun k => { k with commands := q }).shape =
      w.shape.setWorker wid (some ⟨k.token, k.task, q.senderOpen, q.receiverOpen,
        q.items.all fun c => c.ack.isNone⟩) := by
  rw [shape_modifyWorker, hk]
  rfl

/-- Opening a reader makes its token under the worker's; the reader itself is outside the
    shape. -/
theorem shape_startReader {wid : Nat} {k : Worker} (hk : w.worker? wid = some k) :
    (w.startReader wid).shape = w.shape.addToken (some k.token) := by
  unfold startReader
  rw [hk]
  dsimp only
  rw [shape_modifyWorker_reader, shape_spawn, shape_newToken, shape_modifyWorker_streaming]
  exact Shape.setTask_of_none (shape_tasks_size _)

/-- A command applied under the lock may reopen the reader; a command that asks for no answer
    is not answered. -/
theorem shape_applyCommand {wid : Nat} {k : Worker} (hk : w.worker? wid = some k) {c : WorkerCommand}
    (hc : c.ack = none) :
    (w.applyCommand wid c).shape = w.shape ∨ (w.applyCommand wid c).shape = w.shape.addToken (some k.token) := by
  unfold applyCommand
  rw [hk]
  dsimp only
  rw [hc]
  dsimp only
  -- the clients and the lock are outside the shape
  set w₁ := (w.modifyWorker wid fun k' => { k' with clients := (attachClients w.settings.policy
    k.clients c.robots).1 }).unlockClients wid
  have h₁ : w₁.shape = w.shape := by simp [w₁]
  obtain ⟨k₁, hk₁, hsh⟩ := worker?_of_shape (show w₁.shape.workers wid = some k.shape by
    rw [h₁]; simp [shape, hk])
  split
  · exact .inr (by rw [shape_startReader hk₁, h₁, show k₁.token = k.token from
      congrArg WorkerShape.token hsh])
  · exact .inl h₁

theorem shape_endWorker {t : TaskId} {wid : Nat} {k : Worker} (hk : w.worker? wid = some k)
    (hun : k.shape.unanswered = true) :
    (w.endWorker t wid).1.shape =
      (w.shape.setWorker wid (some { k.shape with receiverOpen := false, unanswered := true })).finish t := by
  have hun' : ∀ c ∈ k.commands.closeReceiver.2.1, c.ack = none := by
    simpa [Worker.shape, Queue.closeReceiver] using hun
  unfold endWorker
  rw [hk]
  dsimp only
  rw [shape_finish, dropCommands_of_unanswered _ hun', shape_wakeAll, shape_modifyWorker_commands hk]
  rfl

theorem shape_dropHandle {wid : Nat} {k : Worker} (hk : w.worker? wid = some k) :
    (w.dropHandle wid).shape = w.shape.setWorker wid (some { k.shape with senderOpen := false }) := by
  unfold dropHandle
  rw [hk]
  dsimp only
  rw [shape_wakeAll, shape_modifyWorker_commands hk]
  simp [Worker.shape]

theorem shape_beginStop (t : TaskId) (wid tok : Nat) (ht : w.shape.tasks t = some (j, d)) :
    (w.beginStop t wid tok).1.shape =
      ((w.unwatch tok t).cancel tok).shape.setTask t (some (.worker wid (.stopping
        (((w.unwatch tok t).cancel tok).clock + stopGrace)), d)) := by
  unfold beginStop
  dsimp only
  exact shape_setJob _ (show ((w.unwatch tok t).cancel tok).shape.tasks t = some (j, d) by
    rwa [shape_cancel, shape_unwatch]) rfl

end World

namespace Frame

variable {e : Engine} {s : Shape}

/-- A worker out of its loop is not registered with a serving hub whose token stands. -/
theorem unregistered_of_stopped (hf : Frame e s) {t : TaskId} {wid : Nat} {p : WorkerPhase} {d : Bool}
    (ht : s.tasks t = some (.worker wid p, d)) (hp : p.running = false) :
    ∀ h, s.hub = some h → s.Serving h → s.cancelled h.token = false → wid ∉ h.registry.map (·.2) := by
  intro h hs hsv hcan hreg
  obtain ⟨x, hx, rfl⟩ := List.mem_map.1 hreg
  obtain ⟨k, hk, -, -, -, p', d', hd, hp'⟩ := hf.healthy h hs hsv hcan x hx
  -- the registered worker's control task is `t` itself, which is out of its loop
  obtain ⟨k', hk', rfl⟩ := hf.control t x.2 p d ht
  rw [hk, Option.some.injEq] at hk'
  subst hk'
  rw [ht, Option.some.injEq, Prod.mk.injEq, Job.worker.injEq] at hd
  rw [← hd.1.2] at hp'
  rw [hp] at hp'
  cases hp'

/-- A worker whose token is cancelled, or whose queue lost its sender or receiver, is not
    registered with a serving hub whose token stands. -/
theorem unregistered_of_worker (hf : Frame e s) {wid : Nat} {k : WorkerShape} (hk : s.workers wid = some k)
    (hout : s.cancelled k.token = true ∨ k.senderOpen = false ∨ k.receiverOpen = false) :
    ∀ h, s.hub = some h → s.Serving h → s.cancelled h.token = false → wid ∉ h.registry.map (·.2) := by
  intro h hs hsv hcan hreg
  obtain ⟨x, hx, rfl⟩ := List.mem_map.1 hreg
  obtain ⟨k', hk', hso, hro, hkc, -⟩ := hf.healthy h hs hsv hcan x hx
  rw [hk, Option.some.injEq] at hk'
  subst hk'
  rcases hout with h' | h' | h' <;> simp_all

end Frame

namespace Coherent

variable {e : Engine} {s : Shape} {w : World} {t : TaskId} {wid : Nat}

/-- A task running none of the jobs the agreement reads moves on to another such job that fits the
    frame. A registered worker's control task must stay in its loop. -/
theorem setQuiet (hc : Coherent e s) {j j' : Job} {d d' : Bool} (ht : s.tasks t = some (j, d))
    (hj : j.quiet = true) (hj' : j'.quiet = true) (hfits : s.TaskFits e t j' d')
    (hworker : ∀ h, s.hub = some h → s.Serving h → s.cancelled h.token = false →
      ∀ x ∈ h.registry, ∀ k, s.workers x.2 = some k → k.task = t →
        ∃ p, j' = .worker x.2 p ∧ p.running = true) :
    Coherent e (s.setTask t (some (j', d'))) := by
  refine hc.setTask_quiet (hc.toFrame.setTask (fun j₁ d₁ hv => ?_) (fun h hs => ?_) ?_ ?_) ?_
  · cases hv
    exact hfits
  · refine (hc.ne_hubTask hs ht fun p hp => ?_).symm
    subst hp
    cases hj
  · intro h hs hsv hcan x hx k hk hkt
    obtain ⟨p, hp, hrun⟩ := hworker h hs hsv hcan x hx k hk hkt
    exact ⟨p, d', by rw [hp], hrun⟩
  · -- the engine's reconciler runs elsewhere
    intro rr hrr hrt
    obtain ⟨r, d₁, hd, -⟩ := hc.engineReconciler rr hrr
    rw [hrt, ht, Option.some.injEq, Prod.mk.injEq] at hd
    rw [hd.1] at hj
    cases hj
  · intro j₁ d₁ hv
    cases hv
    exact hj'

/-- **A worker's control task moves on.** It leaves its loop only once it is not registered with
    a serving hub whose token stands, and it applies only commands that ask for no answer. -/
theorem setWorkerPhase (hc : Coherent e s) {p p' : WorkerPhase} {d : Bool}
    (ht : s.tasks t = some (.worker wid p, d))
    (hrun : p'.running = false → ∀ h, s.hub = some h → s.Serving h → s.cancelled h.token = false →
      wid ∉ h.registry.map (·.2))
    (happ : ∀ c, p' = .applying c → c.ack = none) :
    Coherent e (s.setTask t (some (.worker wid p', d))) := by
  refine hc.setQuiet ht rfl rfl ⟨(hc.fits ht).1, happ⟩ ?_
  -- a registered worker whose control task this is stays in its loop
  intro h hs hsv hcan x hx k hk hkt
  obtain ⟨k', hk', -, -, -, p₁, d₁, hd₁, -⟩ := hc.healthy h hs hsv hcan x hx
  rw [hk, Option.some.injEq] at hk'
  subst hk'
  rw [hkt, ht, Option.some.injEq, Prod.mk.injEq, Job.worker.injEq] at hd₁
  obtain ⟨⟨hw, -⟩, -⟩ := hd₁
  refine ⟨p', by rw [hw], ?_⟩
  cases hp' : p'.running
  · exact absurd (List.mem_map.2 ⟨x, hx, hw.symm⟩) (hrun hp' h hs hsv hcan)
  · rfl

/-- The control task leaves its loop: it cancels its token, which spares the registered
    workers since this one is not among them, and starts waiting for its reader. -/
theorem beginStop (hc : Coherent e w.shape) {p : WorkerPhase}
    (ht : w.shape.tasks t = some (.worker wid p, false)) {ks : WorkerShape} {tok : Nat}
    (hks : w.shape.workers wid = some ks) (htok : ks.token = tok)
    (hout : ∀ h, w.shape.hub = some h → w.shape.Serving h → w.shape.cancelled h.token = false →
      wid ∉ h.registry.map (·.2)) :
    Coherent e (w.beginStop t wid tok).1.shape := by
  subst htok
  rw [World.shape_beginStop t wid ks.token ht]
  set w₁ := w.unwatch ks.token t
  have hc₁ : Coherent e w₁.shape := by simpa [w₁] using hc
  have hout₁ : ∀ h, w₁.shape.hub = some h → w₁.shape.Serving h → w₁.shape.cancelled h.token = false →
      wid ∉ h.registry.map (·.2) := by simpa [w₁] using hout
  have hc₂ := hc₁.cancel_world (hc₁.spares_unregistered (by simpa [w₁] using hks) hout₁)
  refine hc₂.setWorkerPhase (by rw [World.shape_cancel]; simpa [w₁] using ht)
    (fun _ h hs hsv hcan => ?_) fun _ => nofun
  rw [World.shape_cancel] at hs hsv hcan
  exact hout₁ h hs hsv (Frame.uncancelled_of (Frame.cancelled_mono w₁ _) hcan)

/-- A token made under a worker's, as for a new reader, keeps the invariant. -/
theorem addWorkerToken (hc : Coherent e s) {ks : WorkerShape} (hks : s.workers wid = some ks) :
    Coherent e (s.addToken (some ks.token)) :=
  hc.addToken fun q hq => by
    cases hq
    exact (hc.workerToken wid ks hks).1

/-- **The control task opens its first reader** under the worker's token and goes idle. -/
theorem openFirstReader (hc : Coherent e w.shape)
    (ht : w.shape.tasks t = some (.worker wid .start, false)) {k : Worker}
    (hk : w.worker? wid = some k) :
    Coherent e ((w.startReader wid).setJob t (.worker wid .idle)).shape := by
  have hks := World.shape_workers_of hk
  have hsh : (w.startReader wid).shape = w.shape.addToken (some k.token) :=
    World.shape_startReader hk
  have ht₁ : (w.shape.addToken (some k.token)).tasks t = some (.worker wid .start, false) := by
    rw [Shape.addToken_tasks]
    exact ht
  rw [World.shape_setJob _ (hsh ▸ ht₁) rfl, hsh]
  exact (hc.addWorkerToken hks).setWorkerPhase ht₁ (by rintro ⟨⟩) (by rintro _ ⟨⟩)

section Steps

variable {k : Worker}

/-- **The control task takes from its queue.** The queue keeps its ends, and the commands left ask
    for no answer. -/
theorem recvCommand (hc : Coherent e w.shape)
    (ht : w.shape.tasks t = some (.worker wid .idle, false)) (hk : w.worker? wid = some k) :
    Coherent e (((w.modifyWorker wid fun k' => { k' with commands := (k.commands.recv t).1 }).wakeAll
      (k.commands.recv t).2.2).shape) := by
  have hks := World.shape_workers_of hk
  have hun : k.shape.unanswered = true := hc.unanswered wid k.shape hks
  have hall : ∀ c ∈ k.commands.items, c.ack = none := by simpa [Worker.shape] using hun
  rw [World.shape_wakeAll, World.shape_modifyWorker_commands hk]
  refine hc.updateWorker hks rfl rfl ?_ fun h hs hsv hcan hreg => ?_
  · simp only [List.all_eq_true, Option.isNone_iff_eq_none, Queue.recv_items]
    exact fun c hc' => hall c (List.mem_of_mem_tail hc')
  · obtain ⟨x, hx, rfl⟩ := List.mem_map.1 hreg
    obtain ⟨k', hk', hso, hro, -⟩ := hc.healthy h hs hsv hcan x hx
    rw [hks, Option.some.injEq] at hk'
    subst hk'
    simp only [Worker.shape] at hso hro
    simp [hso, hro]

/-- **An idle control task** takes the next command, waits for one, or leaves its loop once its
    token is cancelled or its queue has lost its senders. -/
theorem stepWorker_idle (hc : Coherent e w.shape)
    (ht : w.shape.tasks t = some (.worker wid .idle, false)) (hk : w.worker? wid = some k) :
    Coherent e (w.stepWorker t wid .idle).1.shape := by
  have hks := World.shape_workers_of hk
  unfold World.stepWorker
  rw [hk]
  dsimp only
  split
  · -- cancelled, it leaves its loop
    rename_i hcan
    exact hc.beginStop ht hks rfl (hc.unregistered_of_worker hks (.inl hcan))
  · have hc₁ := hc.recvCommand ht hk
    have hsh := World.shape_wakeAll (w.modifyWorker wid fun k' => { k' with commands := (k.commands.recv t).1 })
      (k.commands.recv t).2.2
    rw [World.shape_modifyWorker_commands hk] at hsh
    have ht₁ : ((w.modifyWorker wid fun k' => { k' with commands := (k.commands.recv t).1 }).wakeAll
        (k.commands.recv t).2.2).shape.tasks t = some (.worker wid .idle, false) := by
      rw [hsh]
      exact ht
    split
    · -- a command: it applies it next, and it asks for no answer
      rename_i c hrecv
      have hc' : c.ack = none := by
        have hall : ∀ c ∈ k.commands.items, c.ack = none := by
          simpa [Worker.shape] using hc.unanswered wid k.shape hks
        exact hall c (by rw [Queue.recv_item hrecv]; exact List.mem_cons_self ..)
      rw [World.shape_setJob _ (by rwa [World.shape_unwatch]) rfl, World.shape_unwatch]
      exact hc₁.setWorkerPhase ht₁ (by rintro ⟨⟩) fun c' h => by cases h; exact hc'
    · -- its senders are gone, so it is not registered: it leaves its loop
      rename_i hrecv
      have hout := hc.unregistered_of_worker hks (.inr (.inl (Queue.recv_ended hrecv).2))
      refine hc₁.beginStop ht₁ (by rw [hsh, Shape.setWorker_workers, Function.update_self]) rfl
        fun h hs hsv hcan => ?_
      rw [hsh] at hs hsv hcan
      exact hout h hs hsv hcan
    · -- nothing yet: it waits
      rw [World.shape_watch]
      exact hc₁

/-- **A control task holding a command** applies it under the lock and goes idle, or waits for
    the lock; with its token cancelled it drops the command, which asks for no answer, and leaves
    its loop. -/
theorem stepWorker_applying (hc : Coherent e w.shape) {c : WorkerCommand}
    (ht : w.shape.tasks t = some (.worker wid (.applying c), false)) (hk : w.worker? wid = some k) :
    Coherent e (w.stepWorker t wid (.applying c)).1.shape := by
  have hks := World.shape_workers_of hk
  have hc' : c.ack = none := hc.applying t wid c false ht
  unfold World.stepWorker
  rw [hk]
  dsimp only
  split
  · -- cancelled: the command goes without a trace, and the task leaves its loop
    rename_i hcan
    rw [World.dropCommands_of_unanswered _ (by simpa using hc')]
    exact (show Coherent e (w.leaveClients wid t).shape by rwa [World.shape_leaveClients]).beginStop
      (by rwa [World.shape_leaveClients]) (by rwa [World.shape_leaveClients]) rfl
      (by simpa only [World.shape_leaveClients] using hc.unregistered_of_worker hks (.inl hcan))
  · have hsh₁ := World.shape_lockClients w wid t
    split
    · -- it holds the lock: the command is applied, perhaps with a new reader, and it goes idle
      obtain ⟨k₁, hk₁, hkk⟩ := World.worker?_of_shape (show (w.lockClients wid t).1.shape.workers wid =
        some k.shape by rwa [hsh₁])
      have hks₁ : (w.lockClients wid t).1.shape.workers wid = some k₁.shape := by rw [hkk, hsh₁, hks]
      have hc₁ : Coherent e (w.lockClients wid t).1.shape := by rwa [hsh₁]
      have ht₁ : (w.lockClients wid t).1.shape.tasks t = some (.worker wid (.applying c), false) := by
        rwa [hsh₁]
      rcases World.shape_applyCommand hk₁ hc' with ha | ha
      · rw [World.shape_setJob _ (by rwa [World.shape_unwatch, ha]) rfl, World.shape_unwatch, ha]
        exact hc₁.setWorkerPhase ht₁ (by rintro ⟨⟩) (by rintro _ ⟨⟩)
      · rw [World.shape_setJob _ (by rwa [World.shape_unwatch, ha, Shape.addToken_tasks]) rfl,
          World.shape_unwatch, ha]
        exact (hc₁.addWorkerToken hks₁).setWorkerPhase (by rwa [Shape.addToken_tasks])
          (by rintro ⟨⟩) (by rintro _ ⟨⟩)
    · -- it waits for the lock
      rw [World.shape_watch, hsh₁]
      exact hc

/-- **A stopping control task** waits for its reader, for at most its grace, and then goes on to
    clear its clients. It is out of its loop, so it is not registered. -/
theorem stepWorker_stopping (hc : Coherent e w.shape) {deadline : Nat}
    (ht : w.shape.tasks t = some (.worker wid (.stopping deadline), false)) (hk : w.worker? wid = some k) :
    Coherent e (w.stepWorker t wid (.stopping deadline)).1.shape := by
  have hclear : ∀ w' : World, w'.shape = w.shape → Coherent e (w'.setJob t (.worker wid .clearing)).shape := by
    intro w' hw'
    rw [World.shape_setJob _ (hw' ▸ ht) rfl, hw']
    exact hc.setWorkerPhase ht (fun _ => hc.unregistered_of_stopped ht rfl) fun _ => nofun
  unfold World.stepWorker
  rw [hk]
  dsimp only
  split
  · split
    · exact hclear _ (World.shape_disarm w t)
    · split
      · exact hclear _ (by simp)
      · simpa using hc
  · exact hclear _ (World.shape_disarm w t)

/-- **A clearing control task** lets its clients go under the lock and ends, closing its queue;
    it is not registered, so the closed queue spares the registry. -/
theorem stepWorker_clearing (hc : Coherent e w.shape)
    (ht : w.shape.tasks t = some (.worker wid .clearing, false)) (hk : w.worker? wid = some k) :
    Coherent e (w.stepWorker t wid .clearing).1.shape := by
  have hks := World.shape_workers_of hk
  have hout := hc.unregistered_of_stopped ht rfl
  unfold World.stepWorker
  rw [hk]
  dsimp only
  split
  · set w₁ := ((w.lockClients wid t).1.modifyWorker wid fun k' => { k' with clients := [] }).unlockClients wid
    have hsh₁ : w₁.shape = w.shape := by simp [w₁]
    obtain ⟨k₁, hk₁, hkk⟩ := World.worker?_of_shape (show w₁.shape.workers wid = some k.shape by
      rwa [hsh₁])
    rw [World.shape_endWorker hk₁ (by rw [hkk]; exact hc.unanswered wid _ hks), hsh₁, hkk]
    -- the new record keeps the token and the task, and the queue's commands ask for no answer
    refine (hc.updateWorker hks ?_ ?_ ?_ fun h hs hsv hcan hreg => absurd hreg (hout h hs hsv hcan)).finish t
    all_goals rfl
  · simpa using hc

/-- **Every step of a worker's control task keeps the invariant.** -/
theorem stepWorker (hc : Coherent e w.shape) {p : WorkerPhase}
    (ht : w.shape.tasks t = some (.worker wid p, false)) :
    Coherent e (w.stepWorker t wid p).1.shape := by
  cases hk : w.worker? wid with
  | none =>
    unfold World.stepWorker
    rw [hk]
    dsimp only
    rw [World.shape_finish]
    exact hc.finish t
  | some k =>
    cases p with
    | start =>
      unfold World.stepWorker
      rw [hk]
      exact hc.openFirstReader ht hk
    | idle => exact hc.stepWorker_idle ht hk
    | applying c => exact hc.stepWorker_applying ht hk
    | stopping d => exact hc.stepWorker_stopping ht hk
    | clearing => exact hc.stepWorker_clearing ht hk

/-- **A task stopping a worker** cancels the worker's token, waits for its control task and then
    drops its handle. The worker is no longer registered, so neither the cancelled token nor the
    closed queue reaches the registry. -/
theorem stepStopper (hc : Coherent e w.shape) {b : Bool}
    (ht : w.shape.tasks t = some (.stopper wid b, false)) :
    Coherent e (w.stepStopper t wid b).1.shape := by
  obtain ⟨-, hout⟩ := hc.stoppers t wid b false ht
  unfold World.stepStopper
  cases hk : w.worker? wid with
  | none =>
    dsimp only
    rw [World.shape_finish]
    exact hc.finish t
  | some k =>
    have hks := World.shape_workers_of hk
    dsimp only
    split
    · -- it cancels the worker's token, which spares the registry
      have hc₁ := hc.cancel_world (hc.spares_unregistered hks fun h hs _ _ => hout h hs)
      rw [Worker.shape_token] at hc₁
      have ht₁ : (w.cancel k.token).shape.tasks t = some (.stopper wid b, false) := by
        rw [World.shape_cancel]
        exact ht
      have hfits := hc₁.fits ht₁
      rw [World.shape_setJob _ ht₁ rfl]
      refine hc₁.setQuiet ht₁ rfl rfl hfits fun h hs hsv hcan x hx k' hk' hkt => ?_
      -- a registered worker's control task runs a worker job, not this one
      obtain ⟨k'', hk'', -, -, -, p, d, hd, -⟩ := hc₁.healthy h hs hsv hcan x hx
      rw [hk', Option.some.injEq] at hk''
      subst hk''
      rw [hkt, ht₁] at hd
      cases hd
    · split
      · -- the control task has ended: the handle goes, and with it the queue's sender
        rw [World.shape_finish, World.shape_dropHandle hk]
        refine (hc.updateWorker hks ?_ ?_ ?_ fun h hs _ _ hreg => absurd hreg (hout h hs)).finish t
        · rfl
        · rfl
        · exact (hc.unanswered wid _ hks : k.shape.unanswered = true)
      · simpa using hc

/-- **A helper answering a worker's robots** answers through its own reply slot, which no
    seeding reconciler waits on, and ends. -/
theorem stepRobotIds (hc : Coherent e w.shape) {r : Nat}
    (ht : w.shape.tasks t = some (.robotIds wid r, false)) :
    Coherent e (w.stepRobotIds t wid r).1.shape := by
  have hsh₁ := World.shape_lockClients w wid t
  unfold World.stepRobotIds
  dsimp only
  split
  · rw [World.shape_finish, World.shape_answer, World.shape_unlockClients, hsh₁]
    refine (hc.mapReply r _ fun t' rr h ht' hcan hs hsv hph => ?_).finish t
    -- the slot a reconciler waits on for its seed has no helper answering through it
    have ha := hc.agrees t' rr h ht' hcan hs hsv
    rw [Shape.agrees_awaitingSeed hph] at ha
    exact ha.2.1 t wid false ht
  · rw [hsh₁]
    exact hc

/-- **An aborted task is dropped where it stands.** A price reader is outside the shape; any
    other task just ends. -/
theorem dropTask (hc : Coherent e w.shape) (j : Job) (hj : j.isReader = true → w.shape.tasks t = none) :
    Coherent e (w.dropTask t j).shape := by
  cases j with
  | reader wid tok p => rwa [World.shape_dropTask_reader (hj rfl)]
  | _ =>
    unfold World.dropTask
    rw [World.shape_finish]
    exact hc.finish t

end Steps

end Coherent

end RobotTrading
